import BraceTemplate.Proofs.Number.Encoding
import BraceTemplate.Proofs.Number.Order

/-!
# Integers as numbers

A natural number below `2 ^ 53` is converted without change, and so is every
greater one that can be stored; the others are rounded to numbers of their size.
The integer part of a number is taken toward zero, and a machine word holds as
much of it as it can.
-/

namespace BraceTemplate.Binary64

open Float.Model (UnpackedFloat Format totalExponent)
open Float.Model.UnpackedFloat

/-! ## Natural numbers -/

theorem canonical_of_lt {n : Nat} (hpos : 0 < n) (hn : n < 2 ^ 53) :
    Canonical (n * 2 ^ (52 - n.log2)) (n.log2 - 52) := by
  have hlog : n.log2 ≤ 52 := by
    have := (Nat.log2_lt hpos.ne').mpr hn
    omega
  have hhigh : n * 2 ^ (52 - n.log2) < 2 ^ (n.log2 + 1) * 2 ^ (52 - n.log2) :=
    Nat.mul_lt_mul_of_pos_right Nat.lt_log2_self (Nat.two_pow_pos _)
  have hlow : 2 ^ n.log2 * 2 ^ (52 - n.log2) ≤ n * 2 ^ (52 - n.log2) :=
    Nat.mul_le_mul_right _ (Nat.log2_self_le hpos.ne')
  rw [← pow_add, show n.log2 + 1 + (52 - n.log2) = 53 by omega] at hhigh
  rw [← pow_add, show n.log2 + (52 - n.log2) = 52 by omega] at hlow
  exact ⟨Nat.mul_pos hpos (Nat.two_pow_pos _), hhigh, by omega, .inl hlow⟩

theorem unpack_pack_model (u : UnpackedFloat) :
    (Float.Model.pack u).unpack = unpack Format.binary64 (pack Format.binary64 u) := rfl

theorem unpack_one : (Float.ofBits 0x3FF0000000000000).toModel.unpack =
    .finite .positive (2 ^ 52) (-52) (by decide) := by
  rfl

theorem ofUInt64_of_lt {n : Nat} (hpos : 0 < n) (hn : n < 2 ^ 53) :
    UnpackedFloat.ofUInt64 Format.binary64 n.toUInt64 =
      .finite .positive (n * 2 ^ (52 - n.log2)) (n.log2 - 52) (canonical_of_lt hpos hn).pos := by
  have hlog : n.log2 < 53 := (Nat.log2_lt hpos.ne').mpr hn
  have hword : n.toUInt64.toNat = n := by
    simp
    omega
  have htarget : Format.binary64.targetExponent (totalExponent n 0) = n.log2 - 52 := by
    rw [targetExponent_eq, totalExponent]
    omega
  have hshift : (0 - ((n.log2 : Int) - 52)).toNat = 52 - n.log2 := by omega
  have hexponent : (0 : Int) - (52 - n.log2 : Nat) = n.log2 - 52 := by omega
  have hcompare : compare (n : Int) 0 = .gt := Int.compare_eq_gt.mpr (by omega)
  have hexact := (canonical_of_lt hpos hn).roundWithAccuracy_eq .positive 0
  simp only [pow_zero, Nat.mul_one, Nat.cast_zero, Int.sub_zero] at hexact
  unfold UnpackedFloat.ofUInt64 UnpackedFloat.ofNat UnpackedFloat.ofInt UnpackedFloat.normalize
  rw [hword]
  simp only [hcompare, Int.toNat_natCast, UnpackedFloat.round, htarget, decreaseExponent, hshift,
    Nat.shiftLeft_eq, hexponent, hexact]

theorem unpack_toFloat {n : Nat} (hpos : 0 < n) (hn : n < 2 ^ 53) :
    n.toUInt64.toFloat.toModel.unpack =
      .finite .positive (n * 2 ^ (52 - n.log2)) (n.log2 - 52) (canonical_of_lt hpos hn).pos := by
  have hlog : n.log2 < 53 := (Nat.log2_lt hpos.ne').mpr hn
  change (Float.Model.pack (UnpackedFloat.ofUInt64 Format.binary64 n.toUInt64)).unpack = _
  rw [unpack_pack_model, ofUInt64_of_lt hpos hn, (canonical_of_lt hpos hn).unpack_pack (by omega)]

theorem ofScientific_eq {n : Nat} (hpos : 0 < n) :
    UnpackedFloat.ofScientific Format.binary64 n 0 =
      roundWithAccuracy Format.binary64 .positive (n * 2 ^ 53) (-53) .exact := by
  have hlarge : ¬ (0 : Int) > 2 ^ Format.binary64.exponentBits := by decide
  have hsmall : ¬ (0 : Int) < -((2 ^ Format.binary64.exponentBits : Int) + n.log2) := by
    change ¬ (0 : Int) < -(2 ^ 11 + n.log2)
    omega
  unfold UnpackedFloat.ofScientific
  rw [dif_neg hpos.ne', if_neg hlarge, if_neg hsmall, if_pos le_rfl]
  simp only [UnpackedFloat.mul, Nat.shiftLeft_eq, Int.toNat_zero, pow_zero, Nat.mul_one,
    Int.add_zero]
  rfl

theorem unpack_ofNat_of_lt {n : Nat} (hpos : 0 < n) (hn : n < 2 ^ 53) :
    (Float.ofNat n).toModel.unpack =
      .finite .positive (n * 2 ^ (52 - n.log2)) (n.log2 - 52) (canonical_of_lt hpos hn).pos := by
  have h := canonical_of_lt hpos hn
  have hlog : n.log2 < 53 := (Nat.log2_lt hpos.ne').mpr hn
  have hfast : Float.ofNat n = n.toUInt64.toFloat * Float.ofBits 0x3FF0000000000000 :=
    dif_pos ⟨hn, by decide⟩
  have hproduct : (Float.ofNat n).toModel.unpack =
      (Float.Model.pack (UnpackedFloat.mul Format.binary64 n.toUInt64.toFloat.toModel.unpack
        (Float.ofBits 0x3FF0000000000000).toModel.unpack)).unpack := by
    rw [hfast]
    rfl
  have hexact : UnpackedFloat.mul Format.binary64
      (.finite .positive (n * 2 ^ (52 - n.log2)) (n.log2 - 52) h.pos)
      (.finite .positive (2 ^ 52) (-52) (by decide)) =
      .finite .positive (n * 2 ^ (52 - n.log2)) (n.log2 - 52) h.pos :=
    h.roundWithAccuracy_eq .positive 52
  rw [hproduct, unpack_toFloat hpos hn, unpack_one, hexact, unpack_pack_model,
    h.unpack_pack (by omega)]

theorem unpack_ofNat_of_le {n : Nat} (hn : 2 ^ 53 ≤ n) :
    (Float.ofNat n).toModel.unpack = unpack Format.binary64 (pack Format.binary64
      (roundWithAccuracy Format.binary64 .positive (n * 2 ^ 53) (-53) .exact)) := by
  have hslow : Float.ofNat n = .ofModel (.ofScientific n 0) := dif_neg (by omega)
  rw [hslow, ← ofScientific_eq (by omega)]
  rfl

theorem Canonical.unpack_ofNat {n m : Nat} {e : Int} (h : Canonical m e) (he : e ≤ 971)
    (hvalue : n * 2 ^ (-e).toNat = m * 2 ^ e.toNat) :
    (Float.ofNat n).toModel.unpack = .finite .positive m e h.pos := by
  have hpos : 0 < n := by
    have := Nat.mul_pos h.pos (Nat.two_pow_pos e.toNat)
    exact Nat.pos_of_mul_pos_right (hvalue ▸ this)
  rcases Nat.lt_or_ge n (2 ^ 53) with hlt | hge
  · have hlog : n.log2 < 53 := (Nat.log2_lt hpos.ne').mpr hlt
    have hscaled : m * 2 ^ (e.toNat + (52 - n.log2)) =
        n * 2 ^ (52 - n.log2) * 2 ^ (-e).toNat := by
      rw [pow_add, ← Nat.mul_assoc, ← hvalue]
      exact Nat.mul_right_comm _ _ _
    obtain ⟨rfl, rfl⟩ := h.unique (canonical_of_lt hpos hlt) (by omega) hscaled
    exact unpack_ofNat_of_lt hpos hlt
  · have hexponent : 0 ≤ e := by
      by_contra hneg
      have hle : n * 1 ≤ n * 2 ^ (-e).toNat := Nat.mul_le_mul_left n (Nat.two_pow_pos _)
      rw [hvalue, Int.toNat_of_nonpos (by omega)] at hle
      have := h.lt
      omega
    obtain ⟨k, rfl⟩ := Int.eq_ofNat_of_zero_le hexponent
    have hscaled : n * 2 ^ 53 = m * 2 ^ (k + 53) := by
      rw [Int.toNat_of_nonpos (by omega), pow_zero, Nat.mul_one, Int.toNat_natCast] at hvalue
      rw [hvalue, pow_add, Nat.mul_assoc]
    rw [unpack_ofNat_of_le hge, hscaled, show (-53 : Int) = k - (k + 53 : Nat) by omega,
      h.roundWithAccuracy_eq, h.unpack_pack he]

theorem unpack_ofNat_zero : (Float.ofNat 0).toModel.unpack = .zero .positive := by
  rfl

theorem unpack_ofNat_of_ge {n : Nat} (hn : 2 ^ 53 ≤ n) :
    (Float.ofNat n).toModel.unpack = .infinity .positive ∧ 1022 ≤ n.log2 ∨
      ∃ m e, ∃ h : Canonical m e,
        (Float.ofNat n).toModel.unpack = .finite .positive m e h.pos ∧ 2 ^ 52 ≤ m ∧ 0 < e := by
  have hne : n ≠ 0 := by omega
  have hlog : 53 ≤ n.log2 := (Nat.le_log2 hne).mpr hn
  have hshifted : (n * 2 ^ 53).log2 = n.log2 + 53 := log2_mul_two_pow (by omega) 53
  obtain ⟨m, e, h, hround, hfull, hlow, hhigh⟩ :=
    exists_roundWithAccuracy (m := n * 2 ^ 53) (e := -53) (by omega) (by omega) .positive
  rw [unpack_ofNat_of_le hn, hround]
  rcases le_or_gt e 971 with he | he
  · exact .inr ⟨m, e, h, h.unpack_pack he .positive, hfull, by omega⟩
  · exact .inl ⟨h.unpack_pack_of_lt he .positive, by omega⟩

theorem unpack_ofNat_cases (n : Nat) :
    (Float.ofNat n).toModel.unpack = .zero .positive ∨
      (∃ m e, ∃ hpos : 0 < m, (Float.ofNat n).toModel.unpack = .finite .positive m e hpos) ∨
      (Float.ofNat n).toModel.unpack = .infinity .positive ∧ 1022 ≤ n.log2 := by
  rcases Nat.eq_zero_or_pos n with rfl | hpos
  · exact .inl unpack_ofNat_zero
  rcases Nat.lt_or_ge n (2 ^ 53) with hlt | hge
  · exact .inr (.inl ⟨_, _, _, unpack_ofNat_of_lt hpos hlt⟩)
  · rcases unpack_ofNat_of_ge hge with hinfinite | ⟨m, e, hcanonical, hunpack, -⟩
    · exact .inr (.inr hinfinite)
    · exact .inr (.inl ⟨m, e, hcanonical.pos, hunpack⟩)

/-! ## Integer parts -/

def wholePart (mantissa : Nat) (exponent : Int) : Nat :=
  mantissa * 2 ^ exponent.toNat / 2 ^ (-exponent).toNat

theorem truncate_finite (negative : Bool) (m : Nat) (e : Int) :
    (Binary64.finite negative m e).truncate =
      if negative then -(wholePart m e : Int) else wholePart m e := by
  have hmagnitude : (if 0 ≤ e then (m : Int) * Nat.pow 2 e.toNat else m / Nat.pow 2 (-e).toNat) =
      wholePart m e := by
    unfold wholePart
    split
    · rw [Int.toNat_of_nonpos (by omega : -e ≤ 0)]
      simp
    · rw [Int.toNat_of_nonpos (by omega : e ≤ 0)]
      simp
  rw [truncate, hmagnitude]

theorem wholePart_of_isIntegral {negative : Bool} {m : Nat} {e : Int}
    (h : (Binary64.finite negative m e).isIntegral) :
    wholePart m e * 2 ^ (-e).toNat = m * 2 ^ e.toNat := by
  simp only [isIntegral, Bool.or_eq_true, decide_eq_true_eq, beq_iff_eq, Nat.pow_eq] at h
  refine Nat.div_mul_cancel ?_
  rcases h with he | hdivides
  · rw [Int.toNat_of_nonpos (by omega : -e ≤ 0), pow_zero]
    exact one_dvd _
  · exact (Nat.dvd_of_mod_eq_zero hdivides).mul_right _

theorem wholePart_zero (e : Int) : wholePart 0 e = 0 := by
  simp [wholePart]

theorem truncate_ofUnpacked_finite (s : Sign) (m : Nat) (e : Int) (hpos : 0 < m) :
    (ofUnpacked (.finite s m e hpos)).truncate = s.apply (wholePart m e) := by
  rw [ofUnpacked, truncate_finite]
  cases s <;> rfl

theorem truncate_ofUnpacked_zero (s : Sign) : (ofUnpacked (.zero s)).truncate = 0 := by
  rw [ofUnpacked, truncate_finite, wholePart_zero]
  simp

theorem unpack_neg (x : Float) :
    (-x).toModel.unpack = unpack Format.binary64 (pack Format.binary64 x.toModel.unpack.neg) := rfl

theorem ofInt_neg {n : Nat} (h : 0 < n) : Float.ofInt (-(n : Int)) = -Float.ofNat n := by
  obtain ⟨k, rfl⟩ := Nat.exists_eq_succ_of_ne_zero h.ne'
  rfl

theorem Canonical.unpack_ofInt {n m : Nat} {e : Int} (h : Canonical m e) (he : e ≤ 971)
    (hvalue : n * 2 ^ (-e).toNat = m * 2 ^ e.toNat) (s : Sign) :
    (Float.ofInt (s.apply n)).toModel.unpack = .finite s m e h.pos := by
  have hunpack := h.unpack_ofNat he hvalue
  cases s with
  | positive => exact hunpack
  | negative =>
      have hpos : 0 < n := by
        have := Nat.mul_pos h.pos (Nat.two_pow_pos e.toNat)
        exact Nat.pos_of_mul_pos_right (hvalue ▸ this)
      rw [Sign.apply, ofInt_neg hpos, unpack_neg, hunpack]
      exact h.unpack_pack he .negative

theorem ofInt_truncate_beq {x : Float} (h : (ofFloat x).isIntegral) :
    (Float.ofInt (ofFloat x).truncate == x) = true := by
  rw [beq_iff_compare]
  rw [ofFloat_eq_ofUnpacked] at h ⊢
  cases hx : x.toModel.unpack with
  | notANumber => simp [hx, ofUnpacked, isIntegral] at h
  | infinity s => simp [hx, ofUnpacked, isIntegral] at h
  | zero s =>
      rw [truncate_ofUnpacked_zero]
      rfl
  | finite s m e hpos =>
      obtain ⟨hcanonical, he⟩ := canonical_of_unpack hx
      rw [hx, ofUnpacked] at h
      rw [truncate_ofUnpacked_finite, hcanonical.unpack_ofInt he (wholePart_of_isIntegral h),
        compare_eq_comparePlaces (by simp) (by simp)]
      exact congrArg some Std.ReflCmp.compare_self

/-! ## Finite numbers -/

def isFinite : Binary64 → Bool
  | .finite _ _ _ => true
  | _ => false

theorem beq_self_of_isFinite {x : Float} (h : (ofFloat x).isFinite = true) : (x == x) = true := by
  rw [beq_self_iff]
  intro hnan
  rw [ofFloat_eq_ofUnpacked, hnan] at h
  cases h

theorem isFinite_of_isIntegral {x : Binary64} (h : x.isIntegral = true) : x.isFinite = true := by
  cases x with
  | finite negative mantissa exponent => rfl
  | nan => cases h
  | infinite negative => cases h

theorem isFinite_of_beq {x y : Float} (h : (x == y) = true)
    (hy : (ofFloat y).isFinite = true) : (ofFloat x).isFinite = true := by
  obtain ⟨-, -, rfl | ⟨rfl, -⟩ | ⟨rfl, -⟩⟩ := Float.beq_iff_ne_nan_and_eq.mp h
  · exact hy
  · rfl
  · rfl

theorem isFinite_ofNat {n : Nat} (h : n < 2 ^ 64) : (ofFloat (Float.ofNat n)).isFinite = true := by
  rw [ofFloat_eq_ofUnpacked]
  rcases unpack_ofNat_cases n with hzero | ⟨m, e, hpos, hunpack⟩ | ⟨-, hlong⟩
  · rw [hzero]
    rfl
  · rw [hunpack]
    rfl
  · have hne : n ≠ 0 := by
      rintro rfl
      cases hlong
    have := (Nat.log2_lt hne).mpr h
    omega

theorem isFinite_neg {x : Float} (h : (ofFloat x).isFinite = true) :
    (ofFloat (-x)).isFinite = true := by
  rw [ofFloat_eq_ofUnpacked] at h ⊢
  rw [unpack_neg]
  cases hx : x.toModel.unpack with
  | notANumber => simp [hx, ofUnpacked, isFinite] at h
  | infinity s => simp [hx, ofUnpacked, isFinite] at h
  | zero s => cases s <;> rfl
  | finite s m e hpos =>
      obtain ⟨hcanonical, he⟩ := canonical_of_unpack hx
      rw [UnpackedFloat.neg, hcanonical.unpack_pack he]
      rfl

theorem isFinite_ofInt {n : Int} (hlow : -2 ^ 63 ≤ n) (hhigh : n < 2 ^ 64) :
    (ofFloat (Float.ofInt n)).isFinite = true := by
  rcases Int.eq_nat_or_neg n with ⟨k, rfl | rfl⟩
  · exact isFinite_ofNat (by exact_mod_cast hhigh)
  · rcases Nat.eq_zero_or_pos k with rfl | hpos
    · rfl
    · rw [ofInt_neg hpos]
      exact isFinite_neg (isFinite_ofNat (by omega))

/-! ## Machine words -/

def maxWord : Nat := 2 ^ 64 - 1

/-- The integer part of a number as far as a machine word can hold it. -/
def clampToWord : Binary64 → Nat
  | .nan => 0
  | .infinite negative => if negative then 0 else maxWord
  | .finite negative mantissa exponent =>
      min (Binary64.finite negative mantissa exponent).truncate.toNat maxWord

theorem clampToWord_ofUnpacked_finite (s : Sign) (m : Nat) (e : Int) (hpos : 0 < m) :
    clampToWord (ofUnpacked (.finite s m e hpos)) =
      min (s.apply (wholePart m e)).toNat maxWord := by
  rw [← truncate_ofUnpacked_finite s m e hpos]
  rfl

theorem clampToWord_ofUnpacked_zero (s : Sign) : clampToWord (ofUnpacked (.zero s)) = 0 := by
  have hclamp : clampToWord (ofUnpacked (.zero s)) =
      min (ofUnpacked (.zero s)).truncate.toNat maxWord := rfl
  rw [hclamp, truncate_ofUnpacked_zero]
  rfl

theorem roundToInt_eq (s : Sign) (m : Nat) (e : Int) :
    roundToInt s m e = s.apply (wholePart m e) := by
  have hshift : (0 - (e - e.toNat)).toNat = (-e).toNat := by omega
  unfold roundToInt decreaseExponent shiftToExponent wholePart
  simp only [Int.sub_zero, hshift, mantissa_shiftRight, Nat.shiftLeft_eq]
  rfl

theorem toNat_ofNatClamp (n : Nat) : (UInt64.ofNatClamp n).toNat = min n maxWord := by
  have hsize : UInt64.size = maxWord + 1 := rfl
  unfold UInt64.ofNatClamp
  split
  · change n = _
    omega
  · change maxWord = _
    omega

theorem saturatingIndex_eq_clampToWord (x : Float) :
    saturatingIndex x = clampToWord (ofFloat x) := by
  have hword : saturatingIndex x =
      min (x.toModel.unpack.toInt 0 (UInt64.size - 1)).toNat maxWord := toNat_ofNatClamp _
  rw [hword, ofFloat_eq_ofUnpacked]
  cases x.toModel.unpack with
  | notANumber => rfl
  | infinity s => cases s <;> rfl
  | zero s => rw [clampToWord_ofUnpacked_zero]; rfl
  | finite s m e hpos =>
      rw [clampToWord_ofUnpacked_finite, UnpackedFloat.toInt, roundToInt_eq]

end BraceTemplate.Binary64
