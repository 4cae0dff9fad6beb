import BraceTemplate.Pattern.Basic
import BraceTemplate.Pattern.Bytes
import Std.Data.HashMap

/-!
# Sizes of patterns

A pattern can be used if the machines that match it byte by byte are small
enough: one that reads forwards and remembers groups, and one that reads
backwards and does not.  Here machines are only measured.  A state takes a fixed
number of bytes; further bytes are taken by the transitions of states that have
any number of them.
-/

namespace BraceTemplate.Pattern

open Text

structure Extent where
  states : Nat
  /-- Bytes of transitions that states hold apart from themselves. -/
  transitionBytes : Nat
  deriving DecidableEq, Repr

namespace Extent

def stateBytes : Nat := 32

def rangeBytes : Nat := 8

def jumpBytes : Nat := 4

def bytes (e : Extent) : Nat := stateBytes * e.states + e.transitionBytes

def add (e : Extent) (states transitionBytes : Nat) : Extent :=
  ⟨e.states + states, e.transitionBytes + transitionBytes⟩

def repeated (build : Extent → Extent) : Nat → Extent → Extent
  | 0, e => e
  | count + 1, e =>
      if PatternError.sizeLimit < e.bytes then e else repeated build count (build e)

end Extent

/-! ## Sets of characters -/

/--
States that have been built for a set, by what they do.  Every key has its place
in the table, and a newer entry displaces an older one at the same place.
-/
structure Shared where
  size : Nat
  entries : Std.HashMap Nat (List Nat × Nat)

namespace Shared

def ofSize (size : Nat) : Shared := ⟨size, ∅⟩

def place (shared : Shared) (key : List Nat) : Nat :=
  let digest := key.foldl
    (fun (digest : UInt64) part => (digest ^^^ part.toUInt64) * 1099511628211) 14695981039346656037
  digest.toNat % shared.size

def state (shared : Shared) (key : List Nat) (extent built : Extent) : Nat × Extent × Shared :=
  let place := shared.place key
  match shared.entries[place]?.filter (·.1 == key) with
  | some (_, state) => (state, extent, shared)
  | none =>
      let entries := shared.entries.insert place (key, extent.states)
      (extent.states, built, { shared with entries })

end Shared

def groupByFirst (sequences : List (List ByteRange)) : List (ByteRange × List (List ByteRange)) :=
  sequences.foldr
    (fun sequence groups =>
      match sequence, groups with
      | [], groups => groups
      | first :: rest, [] => [(first, [rest])]
      | first :: rest, (range, rests) :: groups =>
          if first = range then (range, rest :: rests) :: groups
          else (first, [rest]) :: (range, rests) :: groups)
    []

/--
Builds the states that read the sequences and go on to `target`, the last ones
first, and shares equal ones; gives the state that reads their first bytes.
-/
def forwardStates (target : Nat) :
    (depth : Nat) → List (List ByteRange) → Extent × Shared → Nat × Extent × Shared
  | 0, _, built => (target, built)
  | depth + 1, sequences, built =>
      match groupByFirst sequences with
      | [] => (target, built)
      | groups =>
          let (key, extent, shared) := groups.foldl
            (fun (state : List Nat × Extent × Shared) group =>
              let (next, built) := forwardStates target depth group.2 state.2
              (state.1 ++ [group.1.first, group.1.last, next], built))
            ([], built)
          shared.state key extent (extent.add 1 (Extent.rangeBytes * groups.length))

def backwardStates (target : Nat) (built : Extent × Shared) (sequence : List ByteRange) :
    Extent × Shared :=
  (sequence.foldl
    (fun (state : Nat × Extent × Shared) range =>
      let (next, extent, shared) := state
      shared.state [next, range.first, range.last] extent (extent.add 1 0))
    (target, built)).2

def setExtent (backward : Bool) (set : CodeSet) (e : Extent) : Extent :=
  let ranges := set.ranges
  if ranges.all (·.2 < 0x80) then e.add 2 (Extent.rangeBytes * ranges.length)
  else
    let sequences := ranges.flatMap fun range => byteSequences range.1 range.2
    if backward then
      let start := e.add 2 (Extent.jumpBytes * sequences.length)
      (sequences.foldl (backwardStates (e.states + 1)) (start, .ofSize 1000)).1
    else (forwardStates e.states 4 sequences (e.add 1 0, .ofSize 10000)).2.1

/-! ## Choices between texts -/

/-- Cuts a list of texts at the empty ones; of those at its start only one counts. -/
def cutAtEmpty (texts : List (List UInt8)) : List (List (List UInt8)) :=
  let texts :=
    match texts with
    | [] :: _ => [] :: texts.dropWhile List.isEmpty
    | texts => texts
  texts.foldr
    (fun text pieces =>
      match text, pieces with
      | [], pieces => [] :: pieces
      | text, [] => [[text]]
      | text, piece :: rest => (text :: piece) :: rest)
    [[]]

def treeExtent : Nat → List (List UInt8) → Extent → Extent
  | 0, _, e => e
  | depth + 1, texts, e =>
      if texts.all List.isEmpty then e
      else
        let pieces := cutAtEmpty texts
        let inhabited := pieces.filter (!·.isEmpty)
        let jumps := inhabited.length + (pieces.length - 1)
        inhabited.foldl
          (fun e piece =>
            let firsts := (piece.filterMap List.head?).eraseDups
            let e := e.add 1 (if firsts.length = 1 then 0 else Extent.rangeBytes * firsts.length)
            firsts.foldl
              (fun e first =>
                treeExtent depth
                  ((piece.filter (·.head? == some first)).map (·.drop 1)) e)
              e)
          (e.add 1 (Extent.jumpBytes * jumps))

def literal? : Pattern → Option Text
  | literal t => some t
  | _ => none

def textsExtent (backward : Bool) (texts : List Text) (e : Extent) : Extent :=
  let bytes := texts.map fun t =>
    let bytes := t.flatMap String.utf8EncodeChar
    if backward then bytes.reverse else bytes
  treeExtent ((bytes.map List.length).foldl max 0) bytes (e.add 1 0)

/-! ## Patterns -/

mutual

def extent (backward : Bool) : Pattern → Extent → Extent
  | empty, e => e.add 1 0
  | literal t, e => e.add (utf8Size t) 0
  | chars set, e => setExtent backward set e
  | assertion _, e => e.add 1 0
  | group _ body, e =>
      if backward then extent backward body e else (extent backward body (e.add 1 0)).add 1 0
  | sequence items, e => sequenceExtent backward items e
  | choice alternatives, e =>
      match alternatives.mapM literal? with
      | some texts => textsExtent backward texts e
      | none => choiceExtent backward 0 alternatives e
  | repetition 0 (some 1) _ body, e =>
      (extent backward body (e.add 1 0)).add 1 (2 * Extent.jumpBytes)
  | repetition 0 none _ body, e =>
      if body.consumes then (extent backward body (e.add 1 0)).add 0 (2 * Extent.jumpBytes)
      else (extent backward body e).add 3 (4 * Extent.jumpBytes)
  | repetition least none _ body, e =>
      (Extent.repeated (extent backward body) least e).add 1 (2 * Extent.jumpBytes)
  | repetition least (some most) _ body, e =>
      let required :=
        if least = 0 then e.add 1 0 else Extent.repeated (extent backward body) least e
      if most ≤ least then required
      else
        Extent.repeated
          (fun e => extent backward body (e.add 1 (2 * Extent.jumpBytes)))
          (most - least) (required.add 1 0)

def sequenceExtent (backward : Bool) : List Pattern → Extent → Extent
  | [], e => e
  | item :: rest, e =>
      if backward then extent backward item (sequenceExtent backward rest e)
      else sequenceExtent backward rest (extent backward item e)

def choiceExtent (backward : Bool) (position : Nat) : List Pattern → Extent → Extent
  | [], e => e
  | item :: rest, e =>
      choiceExtent backward (position + 1) rest
        ((extent backward item e).add (if position = 1 then 2 else 0) Extent.jumpBytes)

end

def machineExtent (backward : Bool) (p : Pattern) : Extent :=
  let bound := if backward then p.endsWith .textEnd else p.startsWith .textStart
  let start : Extent :=
    if bound then ⟨1, 0⟩ else ⟨3, 2 * Extent.jumpBytes + Extent.rangeBytes⟩
  if backward then (p.extent true start).add 1 0
  else (p.extent false (start.add 1 0)).add 2 0

def fits (p : Pattern) : Bool :=
  (p.machineExtent false).bytes ≤ PatternError.sizeLimit &&
    (p.machineExtent true).bytes ≤ PatternError.sizeLimit

end BraceTemplate.Pattern
