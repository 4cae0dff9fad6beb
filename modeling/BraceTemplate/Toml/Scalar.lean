import BraceTemplate.Json.Basic
import BraceTemplate.Number.Reader
import BraceTemplate.Text.Hexadecimal

/-!
# Bare values of a TOML document

Booleans and numbers are written without quotes.  Digits may be grouped by
underscores, each between two digits.  An infinity or no number becomes null.
-/

namespace BraceTemplate.Toml

def ungroup? (isDigit : Char → Bool) (t : Text) : Option Text :=
  let groups := Text.fields (· == '_') t
  if groups.all fun group => !group.isEmpty && group.all isDigit then some groups.flatten else none

/-- An integer fits a machine word, signed if it is below zero. -/
def ofInteger? (n : Int) : Option Json :=
  if -(Int.pow 2 63) ≤ n && n < Int.pow 2 64 then some (.integer n) else none

def readRadix? (radix : Nat) (t : Text) : Option Json := do
  let isDigit := fun (c : Char) => (Text.hexDigit? c).any (· < radix)
  let digits ← ungroup? isDigit t
  ofInteger? (digits.foldl (fun n c => n * radix + (Text.hexDigit? c).getD 0) 0 : Nat)

def wholeDigits? (t : Text) : Option Text := do
  let digits ← ungroup? Char.isDigit t
  if 1 < digits.length && digits.head? == some '0' then none else some digits

def readPower? (t : Text) : Option Int := do
  let (negative, written) := t.cutSign
  let digits ← ungroup? Char.isDigit written
  let power := Text.digitsValue digits
  some (if negative then -power else power)

def readFloat? (negative : Bool) (t : Text) : Option Json := do
  let isPowerMark := fun (c : Char) => c == 'e' || c == 'E'
  let mantissa := t.takeWhile (!isPowerMark ·)
  let whole := mantissa.takeWhile (· != '.')
  let digits ← wholeDigits? whole
  let fraction ←
    match mantissa.drop whole.length with
    | [] => some []
    | _ :: fraction => ungroup? Char.isDigit fraction
  let power ←
    match t.drop mantissa.length with
    | [] => some 0
    | _ :: power => readPower? power
  let x := floatOfDecimal (Text.digitsValue (digits ++ fraction)) (power - fraction.length)
  if x.isInf then none else some (.float (if negative then -x else x))

def readDecimal? (negative : Bool) (t : Text) : Option Json :=
  if t.any fun c => c == '.' || c == 'e' || c == 'E' then readFloat? negative t
  else do
    let digits ← wholeDigits? t
    let n : Int := Text.digitsValue digits
    ofInteger? (if negative then -n else n)

def readScalar? (t : Text) : Option Json :=
  let (negative, magnitude) := t.cutSign
  let word := String.ofList magnitude
  if word == "inf" || word == "nan" then some .null
  else if String.ofList t == "true" then some (.bool true)
  else if String.ofList t == "false" then some (.bool false)
  else match t with
    | '0' :: 'x' :: digits => readRadix? 16 digits
    | '0' :: 'o' :: digits => readRadix? 8 digits
    | '0' :: 'b' :: digits => readRadix? 2 digits
    | _ => readDecimal? negative magnitude

end BraceTemplate.Toml
