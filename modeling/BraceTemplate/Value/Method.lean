import BraceTemplate.Text.Case
import BraceTemplate.Value.Display

/-!
# Methods of values

Host objects answer the methods that their host gives them.  All other values
have the same few methods for numbers, texts and sequences.
-/

namespace BraceTemplate

def maxDecimals : Nat := 100

namespace Value

variable {H : Type} [HostObject H]

def mapText (f : Text → Text) (s : String) : String := String.ofList (f s.toList)

def decimalsArgument (method : String) (arguments : List String) : Except FilterError Nat :=
  let written := (arguments.head?.map fun argument => mapText Text.trim argument).getD "0"
  match readIndex? written.toList with
  | some n =>
      if n ≤ maxDecimals then .ok n
      else .error (.invalidArgument ("call>" ++ method) written
        ("expected an integer from 0 to " ++ toString maxDecimals))
  | none => .error (.invalidArgument ("call>" ++ method) written
      ("expected an integer from 0 to " ++ toString maxDecimals))

def powerOfTen (x : Float) : Int :=
  if x == 0.0 then 0 else (Binary64.ofFloat (Float.log10 x.abs).floor).truncate

/-- A number with as many digits as `precision` asks for, those before the point included. -/
def writePrecision (precision : Nat) (x : Float) : String :=
  writeFixed ((max precision 1 : Nat) - 1 - powerOfTen x).toNat x

def callMethod (value : Value H) (method : String) (arguments : List String) :
    Except FilterError (Value H) :=
  let number := value.asNumber?.elim (.error (.methodNotFound method)) Except.ok
  match value with
  | object host => HostObject.call host method arguments
  | _ =>
      if method = "to_fixed" then do
        let x ← number
        let places ← decimalsArgument method arguments
        pure (.string (writeFixed places x))
      else if method = "to_precision" then do
        let x ← number
        let precision ← decimalsArgument method arguments
        pure (.string (writePrecision precision x))
      else if method = "to_uppercase" then .ok (.string (mapText Text.toUpper value.display))
      else if method = "to_lowercase" then .ok (.string (mapText Text.toLower value.display))
      else if method = "trim" then .ok (.string (mapText Text.trim value.display))
      else if method = "join" then
        match value.asArray? with
        | some items => .ok (.string ((arguments.headD ",").intercalate (items.map display)))
        | none => .error (.methodNotFound method)
      else if method = "len" then
        value.length?.elim (.error (.methodNotFound method)) fun n => .ok (ofIndex n)
      else .error (.methodNotFound method)

end Value

end BraceTemplate
