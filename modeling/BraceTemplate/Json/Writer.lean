import BraceTemplate.Json.Basic
import BraceTemplate.Number.Written
import BraceTemplate.Text.Blank

/-!
# Writing JSON

The compact form: no blanks, members in their order, and only those characters
of a string escaped that have to be.
-/

namespace BraceTemplate.Json

def escape (c : Char) : Text :=
  if c == '\x22' || c == '\\' then ['\\', c]
  else if c == '\n' then ['\\', 'n']
  else if c == '\r' then ['\\', 'r']
  else if c == '\t' then ['\\', 't']
  else if c == '\x08' then ['\\', 'b']
  else if c == '\x0c' then ['\\', 'f']
  else if c.toNat < 0x20 then
    ['\\', 'u', '0', '0', Nat.digitChar (c.toNat / 16), Nat.digitChar (c.toNat % 16)]
  else [c]

def writeString (s : String) : String :=
  String.ofList ('\x22' :: s.toList.flatMap escape ++ ['\x22'])

def write : Json → String
  | .null => "null"
  | .bool b => if b then "true" else "false"
  | .integer n => toString n
  | .float x => NumberStyle.json.write x
  | .string s => writeString s
  | .array items => "[" ++ ",".intercalate (items.map write) ++ "]"
  | .object members =>
      "\x7b" ++ ",".intercalate (members.map fun member =>
        writeString member.1 ++ ":" ++ write member.2) ++ "\x7d"
termination_by document => document
decreasing_by
  · have := List.sizeOf_lt_of_mem ‹_›
    simp only [Json.array.sizeOf_spec]
    omega
  · have := Dictionary.sizeOf_snd_lt ‹_›
    simp only [Json.object.sizeOf_spec]
    omega

end BraceTemplate.Json
