import BraceTemplate.Pattern.Assertion

/-!
# Patterns

A pattern describes texts.  Of several ways to match at the leftmost possible
place the first one counts: alternatives in their order, repetitions as often
as possible or, when lazy, as seldom as possible.

Patterns are built by `ofSet`, `sequenceOf`, `choiceOf` and `repetitionOf`, which
keep them in a simple form: no sequence in a sequence, no choice in a choice, no
two texts side by side, and no choice between single characters.
-/

namespace BraceTemplate

open Text

inductive Pattern where
  | empty
  | literal (t : Text)
  | chars (set : CodeSet)
  | assertion (a : Assertion)
  /-- A group whose match is remembered under its index. -/
  | group (index : Nat) (body : Pattern)
  | sequence (items : List Pattern)
  | choice (alternatives : List Pattern)
  /-- At least `least` times and, if bounded, at most `most` times. -/
  | repetition (least : Nat) (most : Option Nat) (greedy : Bool) (body : Pattern)

namespace Pattern

/-! ## Lengths and ends of matches -/

mutual

def leastLength? : Pattern → Option Nat
  | empty => some 0
  | literal t => some t.length
  | chars set => if set.isEmpty then none else some 1
  | assertion _ => some 0
  | group _ body => body.leastLength?
  | sequence items => leastSum? items
  | choice alternatives => leastOf? alternatives
  | repetition least _ _ body => body.leastLength?.map (least * ·)

def leastSum? : List Pattern → Option Nat
  | [] => some 0
  | item :: rest => item.leastLength?.bind fun least => (leastSum? rest).map (least + ·)

def leastOf? : List Pattern → Option Nat
  | [] => none
  | item :: [] => item.leastLength?
  | item :: rest => item.leastLength?.bind fun least => (leastOf? rest).map (min least)

end

def consumes (p : Pattern) : Bool := p.leastLength?.any (0 < ·)

mutual

def readsNothing : Pattern → Bool
  | empty => true
  | literal t => t.isEmpty
  | chars _ => false
  | assertion _ => true
  | group _ body => body.readsNothing
  | sequence items => allReadNothing items
  | choice alternatives => allReadNothing alternatives
  | repetition _ _ _ body => body.readsNothing

def allReadNothing : List Pattern → Bool
  | [] => true
  | item :: rest => item.readsNothing && allReadNothing rest

end

mutual

def startsWith (a : Assertion) : Pattern → Bool
  | assertion b => b == a
  | group _ body => body.startsWith a
  | sequence items => firstStartsWith a items
  | choice alternatives => allStartWith a alternatives
  | repetition least _ _ body => 0 < least && body.startsWith a
  | _ => false

def firstStartsWith (a : Assertion) : List Pattern → Bool
  | [] => false
  | item :: rest => item.startsWith a || (item.readsNothing && firstStartsWith a rest)

def allStartWith (a : Assertion) : List Pattern → Bool
  | [] => true
  | item :: rest => item.startsWith a && allStartWith a rest

end

mutual

def endsWith (a : Assertion) : Pattern → Bool
  | assertion b => b == a
  | group _ body => body.endsWith a
  | sequence items => lastEndsWith a items
  | choice alternatives => allEndWith a alternatives
  | repetition least _ _ body => 0 < least && body.endsWith a
  | _ => false

def lastEndsWith (a : Assertion) : List Pattern → Bool
  | [] => false
  | item :: rest => lastEndsWith a rest || (allReadNothing rest && item.endsWith a)

def allEndWith (a : Assertion) : List Pattern → Bool
  | [] => true
  | item :: rest => item.endsWith a && allEndWith a rest

end

/-! ## Equality -/

mutual

def same : Pattern → Pattern → Bool
  | empty, empty => true
  | literal t, literal u => t == u
  | chars set, chars set' => set == set'
  | assertion a, assertion b => a == b
  | group index body, group index' body' => index == index' && same body body'
  | sequence items, sequence items' => sameAll items items'
  | choice alternatives, choice alternatives' => sameAll alternatives alternatives'
  | repetition least most greedy body, repetition least' most' greedy' body' =>
      least == least' && most == most' && greedy == greedy' && same body body'
  | _, _ => false

def sameAll : List Pattern → List Pattern → Bool
  | [], [] => true
  | item :: rest, item' :: rest' => same item item' && sameAll rest rest'
  | _, _ => false

end

/-! ## Building patterns -/

def halves : CodeSet := .range 0xD800 0xDFFF

def ofSet (set : CodeSet) : Pattern :=
  let set := set.diff halves
  match set.single? with
  | some code => literal [Char.ofNat code]
  | none => chars set

def joinLiterals : List Pattern → List Pattern
  | [] => []
  | literal t :: rest =>
      match joinLiterals rest with
      | literal u :: rest => literal (t ++ u) :: rest
      | rest => literal t :: rest
  | item :: rest => item :: joinLiterals rest

def itemsOf : Pattern → List Pattern
  | empty => []
  | sequence items => items
  | p => [p]

def sequenceOf (patterns : List Pattern) : Pattern :=
  match joinLiterals (patterns.flatMap itemsOf) with
  | [] => empty
  | [item] => item
  | items => sequence items

def alternativesOf : Pattern → List Pattern
  | choice alternatives => alternatives
  | p => [p]

def singleCharacter? : Pattern → Option Nat
  | literal [c] => some c.toNat
  | _ => none

def set? : Pattern → Option CodeSet
  | chars set => some set
  | _ => none

def simpleChoice (patterns : List Pattern) : Pattern :=
  let alternatives := patterns.flatMap alternativesOf
  match alternatives with
  | [p] => p
  | _ =>
      match alternatives.mapM singleCharacter?, alternatives.mapM set? with
      | some codes, _ => ofSet (.ofList codes)
      | none, some sets => ofSet (.unions sets)
      | none, none => choice alternatives

def commonStart : List Pattern → List Pattern → List Pattern
  | item :: rest, item' :: rest' => if same item item' then item :: commonStart rest rest' else []
  | _, _ => []

def sequenceItems? : Pattern → Option (List Pattern)
  | sequence items => some items
  | _ => none

def choiceOf (patterns : List Pattern) : Pattern :=
  match simpleChoice patterns with
  | choice alternatives =>
      match alternatives.mapM sequenceItems? with
      | some (first :: rest) =>
          let shared := rest.foldl commonStart first
          if shared.isEmpty then choice alternatives
          else
            let remaining := (first :: rest).map fun items =>
              sequenceOf (items.drop shared.length)
            sequenceOf (shared ++ [simpleChoice remaining])
      | _ => choice alternatives
  | p => p

def repetitionOf (least : Nat) (most : Option Nat) (greedy : Bool) (body : Pattern) : Pattern :=
  let (least, most) :=
    if body.readsNothing then (min least 1, some ((most.map (min · 1)).getD 1))
    else (least, most)
  if most == some 0 then empty
  else if least == 1 && most == some 1 then body
  else repetition least most greedy body

end Pattern

structure NamedPattern where
  pattern : Pattern
  groups : Nat
  names : List (Text × Nat)

inductive PatternError where
  | malformed
  | tooLarge
  deriving DecidableEq, Repr

namespace PatternError

/-- The greatest size of the machine for a pattern, in bytes. -/
def sizeLimit : Nat := 10485760

def message : PatternError → String
  | malformed => "regex parse error:"
  | tooLarge => "Compiled regex exceeds size limit of " ++ toString sizeLimit ++ " bytes."

end PatternError

end BraceTemplate
