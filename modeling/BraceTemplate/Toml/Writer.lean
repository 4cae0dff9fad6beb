import BraceTemplate.Json.Writer
import BraceTemplate.Toml.Reader

/-!
# Writing TOML

A document becomes lines: first the assignments of a table, then its tables
under headers, and arrays of tables under repeated headers.  Null has no
written form, and neither have integers beyond a signed machine word.  Other
libraries lay some documents out differently: here every string stands between
double quotes on one line.
-/

namespace BraceTemplate.Toml

/-- All digits in their places, always with a point. -/
def numberStyle : NumberStyle := ⟨.up, none, true, "", "nan", "inf"⟩

def escape (c : Char) : Text :=
  if c == '\x22' || c == '\\' then ['\\', c]
  else if c.toNat < 0x20 || c.toNat == 0x7F then
    ['\\', 'u', '0', '0', Nat.digitChar (c.toNat / 16), Nat.digitChar (c.toNat % 16)]
  else [c]

def writeString (s : String) : String :=
  String.ofList ('\x22' :: s.toList.flatMap escape ++ ['\x22'])

def writeKey (key : String) : String :=
  if !key.isEmpty && key.toList.all Reader.isKeyCharacter then key else writeString key

def writePath (path : List String) : String := ".".intercalate (path.map writeKey)

mutual

def writeValue? : Json → Option String
  | .null => none
  | .bool b => some (if b then "true" else "false")
  | .integer n => if -(Int.pow 2 63) ≤ n && n < Int.pow 2 63 then some (toString n) else none
  | .float x => some (numberStyle.write x)
  | .string s => some (writeString s)
  | .array items => do
      let written ← writeItems? items
      some ("[" ++ ", ".intercalate written ++ "]")
  | .object members => do
      let written ← writeMembers? members
      some ("\x7b" ++ ", ".intercalate written ++ "\x7d")

def writeItems? : List Json → Option (List String)
  | [] => some []
  | item :: rest => do
      let written ← writeValue? item
      let more ← writeItems? rest
      some (written :: more)

def writeMembers? : List (String × Json) → Option (List String)
  | [] => some []
  | (name, value) :: rest => do
      let written ← writeValue? value
      let more ← writeMembers? rest
      some ((writeKey name ++ " = " ++ written) :: more)

end

def isTable : Json → Bool
  | .object _ => true
  | _ => false

def hasHeader : Json → Bool
  | .object _ => true
  | .array items => !items.isEmpty && items.all isTable
  | _ => false

def tableHeader (path : List String) : String := "\n[" ++ writePath path ++ "]"

def elementHeader (path : List String) : String := "\n[[" ++ writePath path ++ "]]"

def assignmentLines? (members : List (String × Json)) : Option (List String) :=
  writeMembers? (members.filter fun member => !hasHeader member.2)

mutual

def tableLines? (path : List String) : Json → Option (List String)
  | .object members => do
      let assignments ← assignmentLines? members
      let tables ← headedLines? path members
      some (assignments ++ tables)
  | _ => none

def headedLines? (path : List String) : List (String × Json) → Option (List String)
  | [] => some []
  | (name, .object members) :: rest => do
      let inner := path ++ [name]
      let assignments ← assignmentLines? members
      let tables ← headedLines? inner members
      let more ← headedLines? path rest
      some (tableHeader inner :: assignments ++ tables ++ more)
  | (name, .array items) :: rest => do
      let elements ←
        if hasHeader (.array items) then elementLines? (path ++ [name]) items else some []
      let more ← headedLines? path rest
      some (elements ++ more)
  | _ :: rest => headedLines? path rest

def elementLines? (path : List String) : List Json → Option (List String)
  | [] => some []
  | item :: rest => do
      let lines ← tableLines? path item
      let more ← elementLines? path rest
      some (elementHeader path :: lines ++ more)

end

def write? (document : Json) : Option String := do
  let lines ← tableLines? [] document
  some (String.join (lines.map (· ++ "\n")))

end BraceTemplate.Toml
