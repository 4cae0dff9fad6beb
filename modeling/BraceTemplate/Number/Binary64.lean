/-!
# Numbers of sixty-four bits

A number is not a number at all, infinite, or `mantissa * 2 ^ exponent` with a
sign.  The exact rules for writing, rounding and remainders work on this form
with unbounded integers.
-/

namespace BraceTemplate

inductive Binary64 where
  | nan
  | infinite (negative : Bool)
  | finite (negative : Bool) (mantissa : Nat) (exponent : Int)
  deriving DecidableEq, Repr

namespace Binary64

def ofFloat (x : Float) : Binary64 :=
  let bits : Nat := x.toBits.toNat
  let negative := bits / Nat.pow 2 63 == 1
  let biased : Nat := bits / Nat.pow 2 52 % Nat.pow 2 11
  let fraction : Nat := bits % Nat.pow 2 52
  if biased == Nat.pow 2 11 - 1 then
    if fraction == 0 then .infinite negative else .nan
  else if biased == 0 then .finite negative fraction (-1074)
  else .finite negative (fraction + Nat.pow 2 52) ((biased : Int) - 1075)

def normalize : (fuel mantissa : Nat) → (exponent : Int) → Nat × Int
  | 0, mantissa, exponent => (mantissa, exponent)
  | fuel + 1, mantissa, exponent =>
      if mantissa < Nat.pow 2 52 ∧ -1074 < exponent then
        normalize fuel (2 * mantissa) (exponent - 1)
      else (mantissa, exponent)

/--
The number with the given sign, mantissa and exponent, exact whenever the
mantissa has at most fifty-three bits and the exponent is between the least
and the greatest one.
-/
def toFloat : Binary64 → Float
  | .nan => 0.0 / 0.0
  | .infinite negative => if negative then -1.0 / 0.0 else 1.0 / 0.0
  | .finite negative mantissa exponent =>
      let (mantissa, exponent) := normalize 2100 mantissa exponent
      let magnitude :=
        if mantissa < Nat.pow 2 52 then mantissa
        else (exponent + 1075).toNat * Nat.pow 2 52 + (mantissa - Nat.pow 2 52)
      Float.ofBits (UInt64.ofNat (magnitude + if negative then Nat.pow 2 63 else 0))

def remainder (x y : Float) : Float :=
  match ofFloat x, ofFloat y with
  | .finite negative mantissa exponent, .finite _ divisor divisorExponent =>
      if divisor = 0 then 0.0 / 0.0
      else
        let least := min exponent divisorExponent
        let scaled := mantissa * Nat.pow 2 (exponent - least).toNat
        let scaledDivisor := divisor * Nat.pow 2 (divisorExponent - least).toNat
        toFloat (.finite negative (scaled % scaledDivisor) least)
  | .finite _ _ _, .infinite _ => x
  | _, _ => 0.0 / 0.0

def isIntegral : Binary64 → Bool
  | .finite _ mantissa exponent =>
      0 ≤ exponent || mantissa % Nat.pow 2 (-exponent).toNat == 0
  | _ => false

def truncate : Binary64 → Int
  | .finite negative mantissa exponent =>
      let magnitude : Int :=
        if 0 ≤ exponent then mantissa * Nat.pow 2 exponent.toNat
        else mantissa / Nat.pow 2 (-exponent).toNat
      if negative then -magnitude else magnitude
  | _ => 0

end Binary64

end BraceTemplate
