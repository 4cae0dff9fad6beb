import BraceTemplate.Text.Quoted
import BraceTemplate.Value.Json

/-!
# The texts of a value

`display` is what a value becomes in rendered text: nothing for an absent one,
the items of an array between commas, a map as JSON.  `diagnostic` shows how a
value is built.
-/

namespace BraceTemplate.Value

variable {H : Type} [HostObject H]

def display : Value H → String
  | undefined => ""
  | null => "null"
  | bool b => if b then "true" else "false"
  | number x => displayNumber x
  | string s => s
  | array items => ",".intercalate (items.map display)
  | map entries => (toJson (.map entries)).write
  | iteration i => toString i.position
  | object host => HostObject.display host
termination_by value => sizeOf value
decreasing_by
  have := List.sizeOf_lt_of_mem ‹_›
  simp only [Value.array.sizeOf_spec]
  omega

def diagnostic : Value H → String
  | undefined => "Undefined"
  | null => "Null"
  | bool b => if b then "Bool(true)" else "Bool(false)"
  | number x => "Number(" ++ NumberStyle.diagnostic.write x ++ ")"
  | string s => "String(" ++ quote s ++ ")"
  | array items => "Array([" ++ ", ".intercalate (items.map diagnostic) ++ "])"
  | map entries =>
      "Map(\x7b" ++ ", ".intercalate (entries.map fun entry =>
        quote entry.1 ++ ": " ++ diagnostic entry.2) ++ "\x7d)"
  | iteration i =>
      "Iter(Iteration \x7b index: " ++ toString i.index ++ ", size: " ++ toString i.size ++
        ", sign: " ++ (if i.oneBased then "2" else "1") ++ " \x7d)"
  | object host => "Object(" ++ quote (HostObject.typeName host) ++ ")"
termination_by value => value
decreasing_by
  · have := List.sizeOf_lt_of_mem ‹_›
    simp only [Value.array.sizeOf_spec]
    omega
  · have := Dictionary.sizeOf_snd_lt ‹_›
    simp only [Value.map.sizeOf_spec]
    omega

end BraceTemplate.Value
