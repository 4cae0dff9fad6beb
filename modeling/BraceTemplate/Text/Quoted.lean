import BraceTemplate.Text.Category

/-!
# Quoted text

A text between double quotes, with escapes for quotes, backslashes, control
characters and every character without a visible shape of its own.
-/

namespace BraceTemplate.Text

def hexDigits (n : Nat) : Text := Nat.toDigits 16 n

def isPrintable (c : Char) : Bool :=
  c == ' ' ||
    !((category c).isOther || (category c).isSeparator || isGraphemeExtend c)

def escape (c : Char) : Text :=
  if c == '\x22' || c == '\\' then ['\\', c]
  else if c.toNat == 0 then ['\\', '0']
  else if c == '\t' then ['\\', 't']
  else if c == '\n' then ['\\', 'n']
  else if c == '\r' then ['\\', 'r']
  else if 0x20 ≤ c.toNat && c.toNat < 0x7F then [c]
  else if isPrintable c then [c]
  else ['\\', 'u', '{'] ++ hexDigits c.toNat ++ ['}']

def escapeInPath (c : Char) : Text := if c == '\x27' then ['\\', c] else escape c

def quotedBy (escape : Char → Text) (t : Text) : Text := '\x22' :: t.flatMap escape ++ ['\x22']

end BraceTemplate.Text

namespace BraceTemplate

def quote (s : String) : String := String.ofList (Text.quotedBy Text.escape s.toList)

def quotePath (path : String) : String :=
  String.ofList (Text.quotedBy Text.escapeInPath path.toList)

end BraceTemplate
