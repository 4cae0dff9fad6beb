import BraceTemplate.Text.Blank

/-!
# Reading numbers

Numbers are read from decimal text: an optional sign, digits with at most one
point among them, and an optional power of ten; or a word for an infinity or
for no number.  Indices and counts are plain digits that fit a machine word.
-/

namespace BraceTemplate

namespace Text

def digitsValue (digits : Text) : Nat :=
  digits.foldl (fun value c => value * 10 + (c.toNat - '0'.toNat)) 0

/-- Splits off a leading sign; `true` is minus. -/
def cutSign : Text → Bool × Text
  | '-' :: rest => (true, rest)
  | '+' :: rest => (false, rest)
  | t => (false, t)

def isDigits (t : Text) : Bool := !t.isEmpty && t.all Char.isDigit

def readPower? : Text → Option Int
  | [] => some 0
  | c :: rest =>
      if c == 'e' || c == 'E' then
        let (negative, digits) := cutSign rest
        if isDigits digits then
          some (if negative then -(digitsValue digits : Int) else digitsValue digits)
        else none
      else none

def readDecimal? (t : Text) : Option (Nat × Int) :=
  let whole := t.takeWhile Char.isDigit
  let rest := t.drop whole.length
  let (fraction, rest) :=
    match rest with
    | '.' :: rest =>
        let fraction := rest.takeWhile Char.isDigit
        (fraction, rest.drop fraction.length)
    | _ => ([], rest)
  if whole.isEmpty && fraction.isEmpty then none
  else (readPower? rest).map fun power =>
    (digitsValue (whole ++ fraction), power - fraction.length)

end Text

def floatOfDecimal (digits : Nat) (power : Int) : Float :=
  let magnitude := (Nat.repr digits).length + power
  if digits = 0 then 0.0
  else if 310 < magnitude then 1.0 / 0.0
  else if magnitude < -400 then 0.0
  else Float.ofScientific digits (power < 0) power.natAbs

def readNumber? (t : Text) : Option Float :=
  let (negative, magnitude) := t.cutSign
  let word := String.ofList (magnitude.map Char.toLower)
  let value? : Option Float :=
    if word == "inf" || word == "infinity" then some (1.0 / 0.0)
    else if word == "nan" then some (0.0 / 0.0)
    else magnitude.readDecimal?.map fun (digits, power) => floatOfDecimal digits power
  value?.map fun value => if negative then -value else value

/-- Reads digits after an optional plus sign, below `2 ^ 64`. -/
def readIndex? (t : Text) : Option Nat :=
  let digits :=
    match t with
    | '+' :: rest => rest
    | t => t
  if Text.isDigits digits && Text.digitsValue digits < Nat.pow 2 64 then
    some (Text.digitsValue digits)
  else none

/--
The integer part of a number as a machine word: nothing below zero, nothing above the
greatest word.
-/
def saturatingIndex (x : Float) : Nat := x.toUInt64.toNat

end BraceTemplate
