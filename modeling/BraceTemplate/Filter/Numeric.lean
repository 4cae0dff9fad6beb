import BraceTemplate.Filter.Basic

/-!
# Filters on numbers
-/

namespace BraceTemplate.Filter

variable {H : Type} [HostObject H]

/-- The nearest integer; halves go up. -/
def round : Filter H := fun value _ => do
  let x ← numberInput "round" value
  pure (.number (x + 0.5).floor)

def fix : Filter H := fun value arguments => do
  let x ← numberInput "fix" value
  let places ← countArgument "fix" arguments 0
  if places ≤ maxDecimals then pure (.string (writeFixed places x))
  else
    .error (.invalidArgument "fix" (arguments.headD "")
      ("expected at most " ++ toString maxDecimals ++ " digits"))

def arithmetic (filter : String) (operation : Float → Float → Float) : Filter H :=
  fun value arguments => do
    let x ← numberInput filter value
    let y ← numberArgument filter arguments 0
    pure (.number (operation x y))

def divisible : Filter H := fun value arguments =>
  if value.isFalse then .ok (.bool false)
  else do
    let x ← numberInput "divisible" value
    let divisor ← numberArgument "divisible" arguments 0
    pure (passIf value (!(divisor == 0.0) && Binary64.remainder x divisor == 0.0))

def parity (filter : String) (remainder : Float) : Filter H := fun value _ =>
  if value.isFalse then .ok (.bool false)
  else do
    let x ← numberInput filter value
    pure (passIf value ((Binary64.remainder x 2.0).abs == remainder))

def number : Filter H := fun value _ =>
  match value with
  | .number x => .ok (.number x)
  | value => do
      let s ← textInput "number" value
      match readNumber? (s.toList.filter fun c => c.isDigit || c == '-' || c == '.') with
      | some x => .ok (.number x)
      | none => .error (.invalidInput "number" "no numeric content")

end BraceTemplate.Filter
