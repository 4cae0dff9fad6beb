import BraceTemplate.Filter.Basic

/-!
# Measures

What a value is compared by: its number, the count of its items, or its text
where that is not a number.  Maps, host objects and absent values have none.
-/

namespace BraceTemplate

inductive Measure where
  | number (x : Float)
  | text (s : String)

def compareNumbers? (x y : Float) : Option Ordering :=
  if x < y then some .lt
  else if x == y then some .eq
  else if y < x then some .gt
  else none

namespace Measure

variable {H : Type}

def ofValue? : Value H → Option Measure
  | .array items => some (.number (Float.ofNat items.length))
  | .null => some (.number 0.0)
  | .string s =>
      match readNumber? (Text.trim s.toList) with
      | some x => some (.number x)
      | none => some (.text s)
  | .number x => some (.number x)
  | .bool b => some (.number (if b then 1.0 else 0.0))
  | .iteration i => some (.number (Float.ofNat i.position))
  | _ => none

def compareBound? (measure : Measure) (bound : String) : Option Ordering :=
  let bound := Text.trim bound.toList
  match measure, readNumber? bound with
  | .number x, some y => compareNumbers? x y
  | .number x, none => some (compare (NumberStyle.plain.write x) (String.ofList bound))
  | .text s, _ => some (compare s (String.ofList bound))

def sortText : Option Measure → String
  | some (.text s) => s
  | some (.number x) => NumberStyle.plain.write x
  | none => ""

def compareForSort (a b : Option Measure) : Ordering :=
  match a, b with
  | some (.number x), some (.number y) => (compareNumbers? x y).getD .eq
  | a, b => compare (sortText a) (sortText b)

end Measure

end BraceTemplate
