import BraceTemplate.Number.Shortest

/-!
# Written numbers

How a number is written as text: the shortest digits that read back, in a
style, or a fixed count of decimals.  A style says for which powers of ten the
digits are positional and how the rest looks.
-/

namespace BraceTemplate

namespace Decimal

def positional (d : Decimal) : String :=
  let digits := (Nat.repr d.digits).toList
  if 0 ≤ d.exponent then String.ofList (digits ++ List.replicate d.exponent.toNat '0')
  else
    let places := (-d.exponent).toNat
    let padded := List.replicate (places + 1 - digits.length) '0' ++ digits
    String.ofList (padded.take (padded.length - places)) ++ "." ++
      String.ofList (padded.drop (padded.length - places))

def scientific (plus : String) (d : Decimal) : String :=
  let digits := (Nat.repr d.digits).toList
  let fraction := digits.drop 1
  let power := d.magnitude
  String.ofList (digits.take 1) ++
    (if fraction.isEmpty then "" else "." ++ String.ofList fraction) ++
    "e" ++ (if power < 0 then "-" else plus) ++ toString power.natAbs

end Decimal

structure NumberStyle where
  tie : Tie
  /-- The powers of ten of the first digit that are positional; `none` for all. -/
  positionalPowers : Option (Int × Int)
  /-- Whether positional numbers always have a decimal. -/
  keepsPoint : Bool
  /-- Sign of an exponent that is not negative. -/
  plus : String
  notANumber : String
  infinity : String

namespace NumberStyle

def plain : NumberStyle := ⟨.up, none, false, "", "NaN", "inf"⟩

def diagnostic : NumberStyle := ⟨.up, some (-4, 15), true, "", "NaN", "inf"⟩

def json : NumberStyle := ⟨.toEven, some (-5, 15), true, "+", "null", "null"⟩

def write (style : NumberStyle) (x : Float) : String :=
  match Binary64.ofFloat x with
  | .nan => style.notANumber
  | .infinite negative => if negative then "-" ++ style.infinity else style.infinity
  | .finite negative mantissa exponent =>
      let decimal := Decimal.shortest style.tie mantissa exponent
      let positional :=
        match style.positionalPowers with
        | none => true
        | some (least, greatest) =>
            mantissa == 0 || (least ≤ decimal.magnitude && decimal.magnitude ≤ greatest)
      let digits :=
        if positional then
          decimal.positional ++ if style.keepsPoint && 0 ≤ decimal.exponent then ".0" else ""
        else decimal.scientific style.plus
      if negative then "-" ++ digits else digits

end NumberStyle

/-- The quotient of two naturals rounded to the nearest one, an exact half to the even one. -/
def roundedQuotient (numerator denominator : Nat) : Nat :=
  let quotient := numerator / denominator
  let rest := numerator % denominator
  if 2 * rest < denominator then quotient
  else if denominator < 2 * rest then quotient + 1
  else if quotient % 2 = 0 then quotient else quotient + 1

/-- A number with exactly `places` decimals, its exact value rounded half to even. -/
def writeFixed (places : Nat) (x : Float) : String :=
  match Binary64.ofFloat x with
  | .nan => "NaN"
  | .infinite negative => if negative then "-inf" else "inf"
  | .finite negative mantissa exponent =>
      let scaled :=
        roundedQuotient (mantissa * Nat.pow 2 exponent.toNat * Nat.pow 10 places)
          (Nat.pow 2 (-exponent).toNat)
      let digits := Decimal.positional ⟨scaled, -(places : Int)⟩
      if negative then "-" ++ digits else digits

/-- The text of a number as a value: zero has no sign, and the infinities are spelled out. -/
def displayNumber (x : Float) : String :=
  match Binary64.ofFloat x with
  | .infinite negative => if negative then "-Infinity" else "Infinity"
  | .finite _ 0 _ => "0"
  | _ => NumberStyle.plain.write x

end BraceTemplate
