import BraceTemplate.Text.Runs

/-!
# Sets of code points

A set is given by its bounds: the code points, in increasing order, at which
membership changes, from outside at zero.  All combinations of two sets walk
the bounds of both, and `ranges` gives a set back as ranges.
-/

namespace BraceTemplate.Text

structure CodeSet where
  bounds : Array Nat
  deriving DecidableEq, Repr

namespace CodeSet

def lastCode : Nat := 0x10FFFF

def empty : CodeSet := ⟨#[]⟩

def all : CodeSet := ⟨#[0]⟩

/-- The code points from `first` to `last`; there is no bound behind the last of all. -/
def range (first last : Nat) : CodeSet :=
  if lastCode ≤ last then ⟨#[first]⟩ else ⟨#[first, last + 1]⟩

def singleton (code : Nat) : CodeSet := range code code

def contains (set : CodeSet) (code : Nat) : Bool :=
  match set.bounds[0]? with
  | none => false
  | some first =>
      first ≤ code && lastStart set.bounds code 32 0 set.bounds.size % 2 == 0

/-! ## Tables -/

/-- Reads a set: the lengths in base sixteen of the runs outside and inside it, in turn. -/
def ofLines (lines : List String) : CodeSet :=
  ⟨((wordsOfLines lines).foldl
    (fun (table : Nat × Array Nat) word =>
      let bound := table.1 + hexValue word
      (bound, table.2.push bound))
    (0, #[])).2⟩

def ofRuns {α : Type} (table : Runs α) (test : α → Bool) : CodeSet :=
  ⟨((table.starts.zip table.labels).foldl
    (fun (state : Bool × Array Nat) run =>
      if test run.2 == state.1 then state else (!state.1, state.2.push run.1))
    (false, #[])).2⟩

/-! ## Combinations -/

structure Change where
  bound : Nat
  ofFirst : Bool

def changes (s t : CodeSet) : List Change :=
  List.merge (s.bounds.toList.map (⟨·, true⟩)) (t.bounds.toList.map (⟨·, false⟩))
    fun a b => a.bound ≤ b.bound

def toggle (bounds : Array Nat) (bound : Nat) : Array Nat :=
  if bounds.back? == some bound then bounds.pop else bounds.push bound

def combineFrom (op : Bool → Bool → Bool) :
    (inFirst inSecond : Bool) → List Change → Array Nat → Array Nat
  | _, _, [], bounds => bounds
  | first, second, change :: rest, bounds =>
      let first' := if change.ofFirst then !first else first
      let second' := if change.ofFirst then second else !second
      combineFrom op first' second' rest
        (if op first second == op first' second' then bounds else toggle bounds change.bound)

/-- Combines two sets by an operation that is false outside both. -/
def combine (op : Bool → Bool → Bool) (s t : CodeSet) : CodeSet :=
  ⟨combineFrom op false false (changes s t) #[]⟩

def union : CodeSet → CodeSet → CodeSet := combine (· || ·)

def inter : CodeSet → CodeSet → CodeSet := combine (· && ·)

def diff : CodeSet → CodeSet → CodeSet := combine fun inFirst inSecond => inFirst && !inSecond

def symmDiff : CodeSet → CodeSet → CodeSet := combine fun inFirst inSecond => inFirst != inSecond

def complement (set : CodeSet) : CodeSet := all.diff set

def unions (sets : List CodeSet) : CodeSet := sets.foldl union empty

def ofIncreasing (codes : List Nat) : CodeSet :=
  ⟨codes.foldl (fun bounds code => (toggle bounds code).push (code + 1)) #[]⟩

def ofList (codes : List Nat) : CodeSet := ofIncreasing codes.mergeSort.eraseReps

/-! ## Ranges -/

def rangesOfBounds : List Nat → List (Nat × Nat)
  | [] => []
  | [first] => [(first, lastCode)]
  | first :: next :: rest => (first, next - 1) :: rangesOfBounds rest

def ranges (set : CodeSet) : List (Nat × Nat) := rangesOfBounds set.bounds.toList

def isEmpty (set : CodeSet) : Bool := set.bounds.isEmpty

def single? (set : CodeSet) : Option Nat :=
  match set.ranges with
  | [(first, last)] => if first = last then some first else none
  | _ => none

end CodeSet

end BraceTemplate.Text
