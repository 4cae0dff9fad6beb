import BraceTemplate.Proofs.Number.Shortest

/-!
# Decimals as numbers

A decimal is read as the number that is nearest to it, and the shortest decimal of a
number is read as that number again.
-/

namespace BraceTemplate.Binary64

open Float.Model (Format UnpackedFloat totalExponent)
open Float.Model.UnpackedFloat (Accuracy ExtendedMantissa Sign accuracyOfFraction divCore
  roundWithAccuracy pack unpack)

/-! ## Powers of ten -/

theorem ofFloat_powerOfTen (k : Fin Float.exactlyRepresentablePowersOfTen.size) :
    ofFloat Float.exactlyRepresentablePowersOfTen[k] = .finite false
        (10 ^ k.val * 2 ^ 52 / 2 ^ (10 ^ k.val).log2) ((10 ^ k.val).log2 - 52) ∧
      10 ^ k.val * 2 ^ 52 / 2 ^ (10 ^ k.val).log2 * 2 ^ (10 ^ k.val).log2 = 10 ^ k.val * 2 ^ 52 ∧
      2 ^ 52 ≤ 10 ^ k.val * 2 ^ 52 / 2 ^ (10 ^ k.val).log2 := by
  decide +revert +kernel

theorem exists_unpack_powerOfTen {k : Nat} (hk : k < Float.exactlyRepresentablePowersOfTen.size) :
    ∃ mantissa exponent, ∃ hpos : 0 < mantissa,
      Float.exactlyRepresentablePowersOfTen[k].toModel.unpack =
        .finite .positive mantissa exponent hpos ∧
      (mantissa : ℚ) * 2 ^ exponent = 10 ^ k ∧ 2 ^ 52 ≤ mantissa := by
  obtain ⟨hbits, hexact, hlong⟩ := ofFloat_powerOfTen ⟨k, hk⟩
  have hcast : ((10 ^ k * 2 ^ 52 / 2 ^ (10 ^ k).log2 : Nat) : ℚ) * 2 ^ (10 ^ k).log2 =
      10 ^ k * 2 ^ 52 := by exact_mod_cast hexact
  refine ⟨_, _, by omega, unpack_of_ofFloat _ hbits, ?_, hlong⟩
  rw [zpow_sub₀ two_ne_zero, zpow_natCast, ← mul_div_assoc, hcast]
  norm_num

theorem shifted_mul_zpow {n : Nat} (hlog : n.log2 < 53) :
    ((n * 2 ^ (52 - n.log2) : Nat) : ℚ) * 2 ^ ((n.log2 : Int) - 52) = n := by
  have hcancel : (2 : ℚ) ^ ((52 - n.log2 : Nat) : Int) * 2 ^ ((n.log2 : Int) - 52) = 1 := by
    rw [← zpow_add₀ two_ne_zero, show ((52 - n.log2 : Nat) : Int) + (n.log2 - 52) = 0 by omega,
      zpow_zero]
  rw [zpow_natCast] at hcancel
  rw [Nat.cast_mul, Nat.cast_pow, Nat.cast_ofNat, mul_assoc, hcancel, mul_one]

theorem signed_natAbs (power : Int) :
    (if decide (power < 0) = true then Int.negOfNat power.natAbs
      else Int.ofNat power.natAbs) = power := by
  split
  · rename_i hnegative
    have hnegative : power < 0 := by simpa using hnegative
    rw [Int.negOfNat_eq, Int.ofNat_eq_natCast]
    omega
  · rename_i hnonnegative
    have hnonnegative : 0 ≤ power := by simpa using hnonnegative
    exact Int.natAbs_of_nonneg hnonnegative

variable {m : Nat} {e : Int} (h : Canonical m e) {x : ℚ}
  (hx : (Decimal.Interval.ofMantissa m e).Holds e x)

/-! ## Products and quotients -/

include h hx

theorem mul_of_holds {m₁ m₂ : Nat} {e₁ e₂ : Int} (h₁ : 0 < m₁) (h₂ : 0 < m₂)
    (hvalue : x = m₁ * 2 ^ e₁ * (m₂ * 2 ^ e₂)) (hlong : 2 ^ 52 ≤ m₁ * m₂) (s₁ s₂ : Sign) :
    UnpackedFloat.mul Format.binary64 (.finite s₁ m₁ e₁ h₁) (.finite s₂ m₂ e₂ h₂) =
      .finite (s₁ * s₂) m e h.pos := by
  have hscaled : x / 2 ^ (e₁ + e₂) = (m₁ * m₂ : Nat) := by
    rw [hvalue, zpow_add₀ two_ne_zero]
    push_cast
    field_simp
  have htarget : e₁ + e₂ ≤ Format.binary64.targetExponent (totalExponent (m₁ * m₂) (e₁ + e₂)) := by
    have hlog : 52 ≤ (m₁ * m₂).log2 := (Nat.le_log2 (by omega)).mpr hlong
    rw [targetExponent_eq, totalExponent]
    omega
  exact roundWithAccuracy_of_holds h hx (by rw [hscaled]; exact represents_exact _) htarget _

theorem div_of_holds {m₁ m₂ : Nat} {e₁ e₂ : Int} (h₁ : 0 < m₁) (h₂ : 0 < m₂)
    (hvalue : x = m₁ * 2 ^ e₁ / (m₂ * 2 ^ e₂)) (s₁ s₂ : Sign) :
    UnpackedFloat.div Format.binary64 (.finite s₁ m₁ e₁ h₁) (.finite s₂ m₂ e₂ h₂) =
      .finite (s₁ / s₂) m e h.pos := by
  let E := min (e₁ - e₂)
    (Format.binary64.targetExponent (totalExponent m₁ e₁ - totalExponent m₂ e₂))
  obtain ⟨k, hk⟩ : ∃ k : Nat, e₁ - e₂ - E = k := ⟨(e₁ - e₂ - E).toNat, by omega⟩
  have hshift : m₁ <<< (e₁ - e₂ - E).toNat = m₁ * 2 ^ k := by
    rw [Nat.shiftLeft_eq, hk, Int.toNat_natCast]
  have hquotient : UnpackedFloat.div Format.binary64 (.finite s₁ m₁ e₁ h₁) (.finite s₂ m₂ e₂ h₂) =
      roundWithAccuracy Format.binary64 (s₁ / s₂) (m₁ * 2 ^ k / m₂) E
        (accuracyOfFraction (m₁ * 2 ^ k % m₂) m₂) := by
    rw [← hshift]
    rfl
  have hscaled : x / 2 ^ E = (m₁ * 2 ^ k : Nat) / m₂ := by
    have hexponent : e₁ = e₂ + E + k := by omega
    rw [hvalue, hexponent, zpow_add₀ two_ne_zero, zpow_add₀ two_ne_zero, zpow_natCast]
    push_cast
    field_simp
  rw [hquotient]
  refine roundWithAccuracy_of_holds h hx (by rw [hscaled]; exact represents_quotient _ h₂) ?_ _
  -- the quotient has fifty-three digits, or they are cut off at the least exponent
  rw [targetExponent_eq, totalExponent]
  have hE : E = min (e₁ - e₂) (max (totalExponent m₁ e₁ - totalExponent m₂ e₂ - 53) (-1074)) := by
    rw [← targetExponent_eq]
  simp only [totalExponent] at hE
  by_cases hleast : E ≤ -1074
  · omega
  · obtain ⟨a, ha⟩ : ∃ a, m₁.log2 + k = a + (m₂.log2 + 1) :=
      ⟨m₁.log2 + k - (m₂.log2 + 1), by omega⟩
    have hlow : 2 ^ a ≤ m₁ * 2 ^ k / m₂ := by
      rw [Nat.le_div_iff_mul_le h₂]
      calc 2 ^ a * m₂ ≤ 2 ^ a * 2 ^ (m₂.log2 + 1) := Nat.mul_le_mul_left _ Nat.lt_log2_self.le
        _ = 2 ^ m₁.log2 * 2 ^ k := by rw [← pow_add, ← pow_add, ha]
        _ ≤ m₁ * 2 ^ k := Nat.mul_le_mul_right _ (Nat.log2_self_le h₁.ne')
    have hne : m₁ * 2 ^ k / m₂ ≠ 0 := by
      have := Nat.two_pow_pos a
      omega
    have hlog : a ≤ (m₁ * 2 ^ k / m₂).log2 := (Nat.le_log2 hne).mpr hlow
    omega

/-! ## Decimals -/

theorem power_le_of_holds {n : Nat} (hn : 0 < n) {power : Int} (hvalue : x = n * 10 ^ power)
    (he : e ≤ 971) : power ≤ 2 ^ 11 := by
  by_contra! hgt
  have hten : (0 : ℚ) < 10 ^ power := by positivity
  have hone : (1 : ℚ) ≤ n := by exact_mod_cast hn
  have hpower : (2 : ℚ) ^ power ≤ 10 ^ power :=
    zpow_le_zpow_left₀ (by omega) (by norm_num) (by norm_num)
  have hle : (2 : ℚ) ^ power ≤ x := hvalue ▸ hpower.trans (le_mul_of_one_le_left hten.le hone)
  have := (zpow_lt_zpow_iff_right₀ one_lt_two).mp (hle.trans_lt (bounds_of_holds h hx).2.1)
  omega

theorem le_power_of_holds {n : Nat} {power : Int} (hvalue : x = n * 10 ^ power) :
    -(2 ^ 11 + (n.log2 : Int)) ≤ power := by
  by_contra! hlt
  have hten : (0 : ℚ) < 10 ^ power := by positivity
  have hlog : (n : ℚ) < 2 ^ (n.log2 + 1) := by exact_mod_cast Nat.lt_log2_self
  have hpower : (10 : ℚ) ^ power ≤ 2 ^ power := by
    obtain ⟨k, rfl⟩ : ∃ k : Nat, power = -k := ⟨(-power).toNat, by omega⟩
    rw [zpow_neg, zpow_neg, zpow_natCast, zpow_natCast]
    exact inv_anti₀ (by positivity) (pow_le_pow_left₀ (by norm_num) (by norm_num) k)
  have hless : x < 2 ^ ((n.log2 + 1 : Nat) + power) := by
    rw [zpow_add₀ two_ne_zero, zpow_natCast, hvalue]
    exact mul_lt_mul hlog hpower hten (by positivity)
  have := (zpow_lt_zpow_iff_right₀ one_lt_two).mp ((bounds_of_holds h hx).1.trans_lt hless)
  have := h.least
  omega

theorem ofScientific_of_holds {n : Nat} (hn : 0 < n) {power : Int} (hvalue : x = n * 10 ^ power)
    (he : e ≤ 971) :
    UnpackedFloat.ofScientific Format.binary64 n power = .finite .positive m e h.pos := by
  have hlarge : ¬ power > 2 ^ Format.binary64.exponentBits :=
    (power_le_of_holds h hx hn hvalue he).not_gt
  have hsmall : ¬ power < -((2 ^ Format.binary64.exponentBits : Int) + n.log2) :=
    (le_power_of_holds h hx hvalue).not_gt
  unfold UnpackedFloat.ofScientific
  rw [dif_neg hn.ne', if_neg hlarge, if_neg hsmall]
  split
  · rename_i hpower
    obtain ⟨k, rfl⟩ := Int.eq_ofNat_of_zero_le hpower
    have hlong : 2 ^ 52 ≤ n * 2 ^ 53 * 10 ^ k := by
      have hfactor : 1 * 1 ≤ n * 10 ^ k := Nat.mul_le_mul hn (Nat.pow_pos (by decide))
      rw [Nat.mul_right_comm]
      exact (by decide : 2 ^ 52 ≤ 1 * 1 * 2 ^ 53).trans (Nat.mul_le_mul_right _ hfactor)
    have hproduct :
        x = (n * 2 ^ 53 : Nat) * 2 ^ (-53 : Int) * ((10 ^ k : Nat) * 2 ^ (0 : Int)) := by
      have hcancel : (2 : ℚ) ^ 53 * 2 ^ (-53 : Int) = 1 := by norm_num
      rw [hvalue, zpow_natCast, zpow_zero, mul_one, Nat.cast_mul, Nat.cast_pow, Nat.cast_pow,
        Nat.cast_ofNat, mul_assoc (n : ℚ), hcancel, mul_one]
      rfl
    have hmul := mul_of_holds h hx (by omega) (Nat.pow_pos (by decide)) hproduct hlong .positive
      .positive
    simp only [Nat.shiftLeft_eq]
    exact hmul
  · rename_i hpower
    obtain ⟨k, rfl⟩ : ∃ k : Nat, power = -k := ⟨(-power).toNat, by omega⟩
    have hquotient : x = n * 2 ^ (0 : Int) / ((10 ^ k : Nat) * 2 ^ (0 : Int)) := by
      rw [hvalue, zpow_neg, zpow_natCast, zpow_zero, mul_one, mul_one, div_eq_mul_inv]
      push_cast
      rfl
    have hdiv := div_of_holds h hx hn (Nat.pow_pos (by decide)) hquotient .positive .positive
    simp only [neg_neg, Int.toNat_natCast]
    exact hdiv

theorem unpack_ofScientific_of_holds {n : Nat} (hn : 0 < n) {power : Int}
    (hvalue : x = n * 10 ^ power) (he : e ≤ 971) :
    (Float.ofScientific n (power < 0) power.natAbs).toModel.unpack =
      .finite .positive m e h.pos := by
  unfold Float.ofScientific
  split
  · -- both factors are stored without rounding
    rename_i hfast
    have hlog : n.log2 < 53 := (Nat.log2_lt hn.ne').mpr hfast.1
    obtain ⟨mantissa, exponent, hpos, hunpack, hpower, hlong⟩ := exists_unpack_powerOfTen
      (show power.natAbs < Float.exactlyRepresentablePowersOfTen.size from
        Nat.lt_succ_of_le hfast.2)
    have hwhole := unpack_toFloat hn hfast.1
    have hcanonical := canonical_of_lt hn hfast.1
    have hexact := shifted_mul_zpow hlog
    dsimp only
    split
    · rename_i hnegative
      have hnegative : power < 0 := by simpa using hnegative
      have hquotient : x = (n * 2 ^ (52 - n.log2) : Nat) * 2 ^ ((n.log2 : Int) - 52) /
          (mantissa * 2 ^ exponent) := by
        rw [hexact, hpower, hvalue, show power = -power.natAbs by omega, zpow_neg, zpow_natCast,
          div_eq_mul_inv, Int.natAbs_neg, Int.natAbs_natCast]
      have hdiv := div_of_holds h hx hcanonical.pos hpos hquotient .positive .positive
      rw [← hwhole, ← hunpack] at hdiv
      exact (congrArg (fun u => (Float.Model.pack u).unpack) hdiv).trans (h.unpack_pack he _)
    · rename_i hnonnegative
      have hnonnegative : 0 ≤ power := by simpa using hnonnegative
      have hproduct : x = (n * 2 ^ (52 - n.log2) : Nat) * 2 ^ ((n.log2 : Int) - 52) *
          (mantissa * 2 ^ exponent) := by
        rw [hexact, hpower, hvalue, show power = power.natAbs by omega, zpow_natCast,
          Int.natAbs_natCast]
      have hmul := mul_of_holds h hx hcanonical.pos hpos hproduct
        (hlong.trans (Nat.le_mul_of_pos_left _ hcanonical.pos)) .positive .positive
      rw [← hwhole, ← hunpack] at hmul
      exact (congrArg (fun u => (Float.Model.pack u).unpack) hmul).trans (h.unpack_pack he _)
  · have hscientific := ofScientific_of_holds h hx hn hvalue he
    dsimp only
    rw [signed_natAbs]
    exact (congrArg (fun u => (Float.Model.pack u).unpack) hscientific).trans (h.unpack_pack he _)

theorem length_add_power_le_of_holds {n : Nat} (hn : 0 < n) {power : Int}
    (hvalue : x = n * 10 ^ power) (he : e ≤ 971) : ((Nat.repr n).length : Int) + power ≤ 310 := by
  by_contra! hlt
  have hpower : (0 : ℚ) < 10 ^ power := by positivity
  have hlength : 0 < (Nat.repr n).length := Nat.length_repr_pos
  have hdigits : ((10 ^ ((Nat.repr n).length - 1) : Nat) : ℚ) ≤ n := by
    rcases Nat.eq_or_lt_of_le hlength with hone | hmore
    · rw [← hone]
      exact_mod_cast hn
    · have := mt (Nat.length_repr_le_iff (n := n) (k := (Nat.repr n).length - 1) (by omega)).mpr
        (by omega)
      exact_mod_cast not_lt.mp this
  have hle : (10 : ℚ) ^ (310 : Int) ≤ x := by
    calc (10 : ℚ) ^ (310 : Int) ≤ 10 ^ (((Nat.repr n).length - 1 : Nat) + power) :=
          zpow_le_zpow_right₀ (by norm_num) (by omega)
      _ = ((10 ^ ((Nat.repr n).length - 1) : Nat) : ℚ) * 10 ^ power := by
          rw [zpow_add₀ (by norm_num), zpow_natCast]
          push_cast
          rfl
      _ ≤ x := hvalue ▸ mul_le_mul_of_nonneg_right hdigits hpower.le
  have hless : x < (2 : ℚ) ^ (1024 : Int) :=
    (bounds_of_holds h hx).2.1.trans_le (zpow_le_zpow_right₀ one_le_two (by omega))
  have hpowers : (2 : ℚ) ^ (1024 : Int) ≤ 10 ^ (310 : Int) := by
    have hnat : 2 ^ 1024 ≤ 10 ^ 310 := by decide +kernel
    exact_mod_cast hnat
  exact absurd (hle.trans_lt hless) hpowers.not_gt

theorem le_length_add_power_of_holds {n : Nat} {power : Int} (hvalue : x = n * 10 ^ power) :
    -400 ≤ ((Nat.repr n).length : Int) + power := by
  by_contra! hlt
  have hpower : (0 : ℚ) < 10 ^ power := by positivity
  have hdigits : (n : ℚ) < (10 ^ (Nat.repr n).length : Nat) := by
    exact_mod_cast (Nat.length_repr_le_iff Nat.length_repr_pos).mp le_rfl
  have hless : x < (10 : ℚ) ^ (-400 : Int) := by
    calc x < ((10 ^ (Nat.repr n).length : Nat) : ℚ) * 10 ^ power :=
          hvalue ▸ mul_lt_mul_of_pos_right hdigits hpower
      _ = 10 ^ (((Nat.repr n).length : Int) + power) := by
          rw [zpow_add₀ (by norm_num), zpow_natCast]
          push_cast
          rfl
      _ ≤ 10 ^ (-400 : Int) := zpow_le_zpow_right₀ (by norm_num) (by omega)
  have hge : (2 : ℚ) ^ (-1075 : Int) ≤ x :=
    (zpow_le_zpow_right₀ one_le_two (by have := h.least; omega)).trans (bounds_of_holds h hx).1
  have hpowers : (10 : ℚ) ^ (-400 : Int) ≤ 2 ^ (-1075 : Int) := by
    have hnat : 2 ^ 1075 ≤ 10 ^ 400 := by decide +kernel
    rw [zpow_neg, zpow_neg]
    exact inv_anti₀ (by positivity) (by exact_mod_cast hnat)
  exact absurd (hge.trans_lt hless) hpowers.not_gt

theorem unpack_floatOfDecimal_of_holds {n : Nat} (hn : 0 < n) {power : Int}
    (hvalue : x = n * 10 ^ power) (he : e ≤ 971) :
    (floatOfDecimal n power).toModel.unpack = .finite .positive m e h.pos := by
  have hlarge := (length_add_power_le_of_holds h hx hn hvalue he).not_gt
  have hsmall := (le_length_add_power_of_holds h hx hvalue).not_gt
  unfold floatOfDecimal
  rw [if_neg hn.ne', if_neg hlarge, if_neg hsmall]
  exact unpack_ofScientific_of_holds h hx hn hvalue he

omit h hx

theorem isInf_of_unpack {y : Float} {s : Sign} {n : Nat} {f : Int} {hpos : 0 < n}
    (hy : y.toModel.unpack = .finite s n f hpos) : y.isInf = false := by
  change y.toModel.unpack.isInf = false
  rw [hy]
  rfl

theorem ofFloat_of_unpack {y : Float} {s : Sign} {n : Nat} {f : Int} {hpos : 0 < n}
    (hy : y.toModel.unpack = .finite s n f hpos) : ofFloat y = .finite (s == .negative) n f := by
  rw [ofFloat_eq_ofUnpacked, hy, ofUnpacked]

theorem exponent_of_ofFloat_zero {y : Float} {negative : Bool} {f : Int}
    (hy : ofFloat y = .finite negative 0 f) : f = -1074 := by
  rw [ofFloat_eq_ofUnpacked] at hy
  cases hunpack : y.toModel.unpack with
  | zero s => exact (Binary64.finite.inj (hunpack ▸ hy)).2.2.symm
  | finite s n f hpos => exact absurd (Binary64.finite.inj (hunpack ▸ hy)).2.1 hpos.ne'
  | infinity s => rw [hunpack] at hy; cases hy
  | notANumber => rw [hunpack] at hy; cases hy

theorem digits_pos_of_holds {n digits : Nat} {f power : Int} (hcanonical : Canonical n f)
    (hholds : (Decimal.Interval.ofMantissa n f).Holds f (digits * 10 ^ power)) : 0 < digits := by
  refine Nat.pos_of_ne_zero fun hzero => ?_
  have hbelow := (bounds_of_holds hcanonical hholds).1
  rw [hzero, Nat.cast_zero, zero_mul] at hbelow
  exact absurd hbelow (by positivity : (0 : ℚ) < 2 ^ (f - 1)).not_ge

theorem exists_canonical_of_ofFloat {y : Float} {negative : Bool} {n : Nat} {f : Int}
    (hpos : 0 < n) (hy : ofFloat y = .finite negative n f) :
    ∃ s : Sign, negative = (s == .negative) ∧ Canonical n f ∧ f ≤ 971 := by
  obtain ⟨s, rfl⟩ : ∃ s : Sign, negative = (s == .negative) := by
    cases negative with
    | false => exact ⟨.positive, rfl⟩
    | true => exact ⟨.negative, rfl⟩
  exact ⟨s, rfl, canonical_of_unpack (unpack_of_ofFloat hpos hy)⟩

theorem exponent_shortest_of_digits {y : Float} {negative : Bool} {n : Nat} {f : Int}
    (hy : ofFloat y = .finite negative n f) {tie : Tie}
    (hdigits : (Decimal.shortest tie n f).digits = 0) :
    (Decimal.shortest tie n f).exponent = 0 := by
  rcases Nat.eq_zero_or_pos n with rfl | hpos
  · rfl
  · obtain ⟨-, -, hcanonical, hle⟩ := exists_canonical_of_ofFloat hpos hy
    have := digits_pos_of_holds hcanonical (Decimal.holds_shortest tie hcanonical hle)
    omega

theorem signed_floatOfDecimal {y : Float} {negative : Bool} {n : Nat} {f : Int}
    (hy : ofFloat y = .finite negative n f) {tie : Tie} {digits : Nat} {power : Int}
    (hvalue : (digits * 10 ^ power : ℚ) =
      (Decimal.shortest tie n f).digits * 10 ^ (Decimal.shortest tie n f).exponent) :
    (floatOfDecimal digits power).isInf = false ∧
      (if negative then -floatOfDecimal digits power else floatOfDecimal digits power) = y := by
  have hten : (10 : ℚ) ^ power ≠ 0 := by positivity
  rcases Nat.eq_zero_or_pos n with rfl | hpos
  · obtain rfl := exponent_of_ofFloat_zero hy
    have hzero : digits = 0 := by
      rw [Decimal.shortest, if_pos rfl, Nat.cast_zero, zero_mul] at hvalue
      exact_mod_cast (mul_eq_zero.mp hvalue).resolve_right hten
    have hread : floatOfDecimal digits power = 0.0 := if_pos hzero
    rw [hread]
    refine ⟨rfl, ?_⟩
    cases negative with
    | false => exact eq_of_ofFloat rfl hy
    | true => exact eq_of_ofFloat rfl hy
  · obtain ⟨s, rfl, hcanonical, hle⟩ := exists_canonical_of_ofFloat hpos hy
    have hholds := Decimal.holds_shortest tie hcanonical hle
    rw [← hvalue] at hholds
    have hdigits := digits_pos_of_holds hcanonical hholds
    have hunpack := unpack_floatOfDecimal_of_holds hcanonical hholds hdigits rfl hle
    refine ⟨isInf_of_unpack hunpack, ?_⟩
    cases s with
    | positive => exact eq_of_ofFloat (ofFloat_of_unpack hunpack) hy
    | negative =>
        have hneg : (-floatOfDecimal digits power).toModel.unpack = .finite .negative n f hpos := by
          rw [unpack_neg, hunpack]
          exact hcanonical.unpack_pack hle .negative
        exact eq_of_ofFloat (ofFloat_of_unpack hneg) hy

end BraceTemplate.Binary64
