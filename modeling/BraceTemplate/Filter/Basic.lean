import BraceTemplate.Value.Method

/-!
# Filters

A filter makes a value of a value and a list of argument texts, or fails.  The
helpers here read arguments and inputs; a filter is named to them for the error
that it reports.
-/

namespace BraceTemplate

abbrev Filter (H : Type) := Value H → List String → Except FilterError (Value H)

namespace Filter

variable {H : Type}

def argument (filter : String) (arguments : List String) (index : Nat) :
    Except FilterError String :=
  match arguments[index]? with
  | some text => .ok text
  | none => .error (.missingArgument filter (index + 1))

def numberArgument (filter : String) (arguments : List String) (index : Nat) :
    Except FilterError Float := do
  let text ← argument filter arguments index
  match readNumber? (Text.trim text.toList) with
  | some x => .ok x
  | none => .error (.invalidArgument filter text "expected a number")

def countArgument (filter : String) (arguments : List String) (index : Nat) :
    Except FilterError Nat := do
  let x ← numberArgument filter arguments index
  if x < 0.0 then
    .error (.invalidArgument filter (arguments.getD index "") "expected a non-negative count")
  else .ok (saturatingIndex x)

def textInput [HostObject H] (filter : String) (value : Value H) : Except FilterError String :=
  if value.isUndefined then .error (.invalidInput filter "value is undefined")
  else .ok value.display

def numberInput (filter : String) (value : Value H) : Except FilterError Float :=
  match value.asNumber? with
  | some x => .ok x
  | none => .error (.invalidInput filter "expected a number")

def arrayInput (filter : String) (value : Value H) : Except FilterError (List (Value H)) :=
  match value.asArray? with
  | some items => .ok items
  | none => .error (.invalidInput filter "expected a sequence")

def onText [HostObject H] (filter : String) (f : Text → Text) : Filter H := fun value _ => do
  let s ← textInput filter value
  pure (.string (Value.mapText f s))

def passIf (value : Value H) (condition : Bool) : Value H :=
  if condition then value else .bool false

end Filter

end BraceTemplate
