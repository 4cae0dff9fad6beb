import BraceTemplate.Filter.Basic
import BraceTemplate.Text.Split

/-!
# Filters that decide
-/

namespace BraceTemplate.Filter

variable {H : Type} [HostObject H]

def truthy : Filter H := fun value _ => .ok (.bool value.isTruthy)

def falsy : Filter H := fun value _ => .ok (.bool (!value.isTruthy))

def choose : Filter H := fun value arguments =>
  if value.isTruthy then do
    let chosen ← argument "choose" arguments 0
    pure (.string chosen)
  else .ok (.string (arguments.getD 1 ""))

/-- The label that stands in one list where the input's text stands in the other. -/
def toggle : Filter H := fun value arguments => do
  let candidates ← argument "toggle" arguments 0
  let labels ← argument "toggle" arguments 1
  let fallback := arguments.getD 2 ""
  let fieldsOf := fun (s : String) => Text.fields (· == ',') s.toList
  let label := (fieldsOf candidates).findIdx? (fun candidate =>
    String.ofList candidate.trim == value.display) |>.bind fun index => (fieldsOf labels)[index]?
  pure (.string ((label.map String.ofList).getD fallback))

def pluralize : Filter H := fun value arguments => do
  let s ← textInput "pluralize" value
  let count ← numberArgument "pluralize" arguments 0
  let variants := Text.split [';', ';'] s.toList
  let singular := variants.headD []
  let chosen := if count == 1.0 then singular else variants.getD 1 singular
  pure (.string (String.ofList chosen.trim))

def call : Filter H := fun value arguments => do
  let method ← argument "call" arguments 0
  value.callMethod (Value.mapText Text.trim method) (arguments.drop 1)

end BraceTemplate.Filter
