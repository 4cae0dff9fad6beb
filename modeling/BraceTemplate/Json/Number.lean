import BraceTemplate.Json.Basic
import BraceTemplate.Number.Reader

/-!
# Numbers in JSON texts

An integer that fits a machine word stays an integer.  Any other number is
gathered into a machine word of leading digits and a power of ten, and the two
are combined in one floating-point step for each power in the table; it has to
be finite.
-/

namespace BraceTemplate.Json

/-- The word of leading digits of a number, and the power of ten it is to be taken by. -/
structure Significand where
  word : Nat
  power : Int
  full : Bool
  deriving Repr

namespace Significand

def pushWhole (s : Significand) (digit : Nat) : Significand :=
  if s.full || Nat.pow 2 64 ≤ s.word * 10 + digit then { s with power := s.power + 1, full := true }
  else { s with word := s.word * 10 + digit }

/-- Digits after the point: those from the first on that no longer fits the word are dropped. -/
def pushFraction (s : Significand) (digit : Nat) : Significand :=
  if s.full || Nat.pow 2 64 ≤ s.word * 10 + digit then { s with full := true }
  else { s with word := s.word * 10 + digit, power := s.power - 1 }

def ofDigits (whole fraction : Text) : Significand :=
  let value := fun (c : Char) => c.toNat - '0'.toNat
  let start := whole.foldl (fun (s : Significand) c => s.pushWhole (value c)) ⟨0, 0, false⟩
  fraction.foldl (fun (s : Significand) c => s.pushFraction (value c)) { start with full := false }

end Significand

/-- Multiplies or divides by powers of ten from a table that ends at `10 ^ 308`. -/
def scaleFloat : Nat → Float → Int → Option Float
  | 0, x, _ => some x
  | fuel + 1, x, power =>
      if power.natAbs ≤ 308 then
        let scale := Float.ofScientific 1 false power.natAbs
        if 0 ≤ power then
          let scaled := x * scale
          if scaled.isInf then none else some scaled
        else some (x / scale)
      else if x == 0.0 then some x
      else if 0 ≤ power then none
      else scaleFloat fuel (x / Float.ofScientific 1 false 308) (power + 308)

def floatOfSignificand (negative : Bool) (s : Significand) (power : Int) : Option Json :=
  (scaleFloat 4 (Float.ofNat s.word) (s.power + power)).map fun x =>
    .float (if negative then -x else x)

def readMagnitude? (negative : Bool) (t : Text) : Option Json :=
  let whole := t.takeWhile Char.isDigit
  let rest := t.drop whole.length
  if whole.isEmpty || (whole.head? == some '0' && 1 < whole.length) then none
  else match rest with
    | [] =>
        let n := Text.digitsValue whole
        if negative then
          if n = 0 then some (.float (-0.0))
          else if n ≤ Nat.pow 2 63 then some (.integer (-n))
          else floatOfSignificand true (.ofDigits whole []) 0
        else if n < Nat.pow 2 64 then some (.integer n)
        else floatOfSignificand false (.ofDigits whole []) 0
    | '.' :: rest =>
        let fraction := rest.takeWhile Char.isDigit
        if fraction.isEmpty then none
        else readScaled? (.ofDigits whole fraction) (rest.drop fraction.length)
    | rest => readScaled? (.ofDigits whole []) rest
where
  /-- Reads the power of ten; one beyond a signed half word stands for zero or is refused. -/
  readScaled? (s : Significand) (rest : Text) : Option Json :=
    (Text.readPower? rest).bind fun power =>
      if Nat.pow 2 31 ≤ power.natAbs then
        if s.word ≠ 0 && 0 ≤ power then none
        else some (.float (if negative then -0.0 else 0.0))
      else floatOfSignificand negative s power

def readNumber? (t : Text) : Option Json :=
  match t with
  | '-' :: rest => readMagnitude? true rest
  | t => readMagnitude? false t

end BraceTemplate.Json
