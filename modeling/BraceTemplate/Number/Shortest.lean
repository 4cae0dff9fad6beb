import BraceTemplate.Number.Binary64

/-!
# The shortest decimal that reads back

The decimals that read back as `mantissa * 2 ^ exponent` are those between the
midpoints to the two neighbouring numbers, the midpoints included when the
mantissa is even.  The search starts on a decimal grid coarser than the number
and refines it until a grid point lies in the interval.
-/

namespace BraceTemplate

structure Decimal where
  digits : Nat
  exponent : Int
  deriving DecidableEq, Repr

inductive Tie where
  | up | toEven
  deriving DecidableEq, Repr

namespace Decimal

/-- The interval of reals that read back, in units of `2 ^ exponent / 4`. -/
structure Interval where
  value : Nat
  low : Nat
  high : Nat
  closed : Bool

/-- Below a power of two the neighbouring numbers are twice as near. -/
def Interval.ofMantissa (mantissa : Nat) (exponent : Int) : Interval where
  value := 4 * mantissa
  low := 4 * mantissa - if mantissa = Nat.pow 2 52 ∧ -1074 < exponent then 1 else 2
  high := 4 * mantissa + 2
  closed := mantissa % 2 == 0

def Interval.contains (interval : Interval) (unit grid point : Nat) : Bool :=
  let scaled := point * grid
  if interval.closed then interval.low * unit ≤ scaled && scaled ≤ interval.high * unit
  else interval.low * unit < scaled && scaled < interval.high * unit

def nearest? (tie : Tie) (interval : Interval) (unit grid : Nat) : Option Nat :=
  let below := interval.value * unit / grid
  let distance := interval.value * unit - below * grid
  match interval.contains unit grid below, interval.contains unit grid (below + 1) with
  | true, true =>
      if 2 * distance < grid then some below
      else if grid < 2 * distance then some (below + 1)
      else if tie == .up || below % 2 == 1 then some (below + 1)
      else some below
  | true, false => some below
  | false, true => some (below + 1)
  | false, false => none

def search (tie : Tie) (interval : Interval) (exponent : Int) : Nat → Int → Decimal
  | 0, place => ⟨0, place⟩
  | fuel + 1, place =>
      let unit := Nat.pow 2 (exponent - 2).toNat * Nat.pow 10 (-place).toNat
      let grid := Nat.pow 10 place.toNat * Nat.pow 2 (2 - exponent).toNat
      match nearest? tie interval unit grid with
      | some digits => ⟨digits, place⟩
      | none => search tie interval exponent fuel (place - 1)

def trimZeros : Nat → Decimal → Decimal
  | 0, d => d
  | fuel + 1, d =>
      if d.digits ≠ 0 ∧ d.digits % 10 = 0 then trimZeros fuel ⟨d.digits / 10, d.exponent + 1⟩
      else d

def shortest (tie : Tie) (mantissa : Nat) (exponent : Int) : Decimal :=
  if mantissa = 0 then ⟨0, 0⟩
  else
    let place := (((mantissa.log2 : Int) + exponent) * 30103) / 100000 + 2
    trimZeros 20 (search tie (Interval.ofMantissa mantissa exponent) exponent 40 place)

/-- Number of digits less one, plus the exponent: the power of ten of the first digit. -/
def magnitude (d : Decimal) : Int := d.exponent + (Nat.repr d.digits).length - 1

end Decimal

end BraceTemplate
