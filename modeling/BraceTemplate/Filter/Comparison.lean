import BraceTemplate.Filter.Measure
import BraceTemplate.Pattern.Reader
import BraceTemplate.Pattern.Replacement

/-!
# Filters that compare, and filters that use patterns

A comparison passes its input on unchanged if it holds and gives the boolean
`false` if it does not, so that comparisons can follow one another.
-/

namespace BraceTemplate.Filter

variable {H : Type} [HostObject H]

def blank : Filter H := fun value arguments =>
  let present :=
    match value with
    | .number _ => true
    | value => value.isTruthy
  if present then .ok value
  else .ok ((arguments.head?.map Value.string).getD .undefined)

def isBlankText (value : Value H) : Bool :=
  !value.isTruthy || (Text.trim value.display.toList).isEmpty

def empty : Filter H := fun value _ => .ok (passIf value (isBlankText value))

def notempty : Filter H := fun value _ => .ok (passIf value (!isBlankText value))

def comparison (filter : String) (accept : Ordering → Bool) : Filter H := fun value arguments => do
  let bound ← argument filter arguments 0
  let order := (Measure.ofValue? value).bind fun measure => measure.compareBound? bound
  pure (passIf value (order.any accept))

def between : Filter H := fun value arguments => do
  let low ← numberArgument "between" arguments 0
  let high ← numberArgument "between" arguments 1
  let holds :=
    match Measure.ofValue? value with
    | some (.number x) => low ≤ x && x ≤ high
    | _ => false
  pure (passIf value holds)

/-- By number if the input is one or counts as one and the other reads as one; else by text. -/
def equalsText (value : Value H) (other : String) : Bool :=
  match value, value.asNumber?, readNumber? (Text.trim other.toList) with
  | .string s, _, _ => s == other
  | _, some x, some y => x == y
  | value, _, _ => value.display == other

def equality (filter : String) (expected : Bool) : Filter H := fun value arguments => do
  let other ← argument filter arguments 0
  pure (passIf value (equalsText value other == expected))

def patternArgument (filter : String) (ignoreCase : Bool) (written : String) :
    Except FilterError NamedPattern :=
  match Pattern.read ignoreCase written.toList with
  | .ok pattern => .ok pattern
  | .error cause => .error (.invalidArgument filter written cause.message)

def matching (filter : String) (expected : Bool) : Filter H := fun value arguments => do
  let written ← argument filter arguments 0
  let pattern ← patternArgument filter true written
  let s ← textInput filter value
  pure (passIf value (pattern.isMatch s.toList == expected))

def substitute : Filter H := fun value arguments => do
  let written ← argument "sub" arguments 0
  let replacement := arguments.getD 1 ""
  let pattern ← patternArgument "sub" false written
  let s ← textInput "sub" value
  pure (.string (Value.mapText (pattern.replaceAll replacement.toList) s))

end BraceTemplate.Filter
