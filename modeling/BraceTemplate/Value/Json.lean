import BraceTemplate.Value.Basic

/-!
# Values and JSON

Every value has a JSON form.  A number without a fraction becomes an integer
when it fits a signed machine word, and an infinity or no number becomes null;
so do absent values.  Loop positions become numbers, and host objects the text
that they display.
-/

namespace BraceTemplate.Value

variable {H : Type}

def numberToJson (x : Float) : Json :=
  let exact := Binary64.ofFloat x
  if exact.isIntegral && exact.truncate.natAbs < Nat.pow 2 63 then .integer exact.truncate
  else match exact with
    | .finite _ _ _ => .float x
    | _ => .null

def toJson [HostObject H] : Value H → Json
  | undefined | null => .null
  | bool b => .bool b
  | number x => numberToJson x
  | string s => .string s
  | array items => .array (items.map toJson)
  | map entries => Json.ofMembers (entries.map fun entry => (entry.1, toJson entry.2))
  | iteration i => .integer i.position
  | object host => .string (HostObject.display host)
termination_by value => value
decreasing_by
  · have := List.sizeOf_lt_of_mem ‹_›
    simp only [Value.array.sizeOf_spec]
    omega
  · have := Dictionary.sizeOf_snd_lt ‹_›
    simp only [Value.map.sizeOf_spec]
    omega

def ofJson : Json → Value H
  | .null => null
  | .bool b => bool b
  | .integer n => number (Float.ofInt n)
  | .float x => number x
  | .string s => string s
  | .array items => array (items.map ofJson)
  | .object members => map (members.map fun entry => (entry.1, ofJson entry.2))
termination_by document => document
decreasing_by
  · have := List.sizeOf_lt_of_mem ‹_›
    simp only [Json.array.sizeOf_spec]
    omega
  · have := Dictionary.sizeOf_snd_lt ‹_›
    simp only [Json.object.sizeOf_spec]
    omega

def reload [HostObject H] (value : Value H) : Value H := ofJson value.toJson

end BraceTemplate.Value
