import BraceTemplate.Text.Blank

/-!
# Numbers in base sixteen

Digits in base sixteen, in upper or lower case, and the characters that such
numbers are the codes of.
-/

namespace BraceTemplate.Text

def hexDigit? (c : Char) : Option Nat :=
  if c.isDigit then some (c.toNat - '0'.toNat)
  else if 'a' ≤ c && c ≤ 'f' then some (c.toNat - 'a'.toNat + 10)
  else if 'A' ≤ c && c ≤ 'F' then some (c.toNat - 'A'.toNat + 10)
  else none

def hexValue (t : Text) : Nat :=
  t.foldl (fun value c => (hexDigit? c).elim value (value * 16 + ·)) 0

/-- The character with a code; surrogates and codes beyond the last character have none. -/
def charOfCode? (code : Nat) : Option Char :=
  if code < 0xD800 || (0xDFFF < code && code < 0x110000) then some (Char.ofNat code) else none

end BraceTemplate.Text
