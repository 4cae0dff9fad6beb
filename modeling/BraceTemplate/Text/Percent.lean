import BraceTemplate.Text.Blank

/-!
# Percent encoding

Every byte of a text in UTF-8 that may not stand in an address as it is becomes
a percent sign and two digits in base sixteen, upper case.
-/

namespace BraceTemplate.Text

def addressMarks : Text :=
  [';', ',', '/', '?', ':', '@', '&', '=', '+', '$', '-', '_', '.', '!', '~', '*', '\x27', '(', ')',
    '#']

def upperHexDigit (n : Nat) : Char := (Nat.digitChar n).toUpper

def percentEncodeByte (byte : UInt8) : Text :=
  let c := Char.ofUInt8 byte
  if c.isAlphanum || addressMarks.contains c then [c]
  else ['%', upperHexDigit (byte.toNat / 16), upperHexDigit (byte.toNat % 16)]

def percentEncode (t : Text) : Text :=
  t.flatMap fun c => (String.utf8EncodeChar c).flatMap percentEncodeByte

end BraceTemplate.Text
