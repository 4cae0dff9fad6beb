import Mathlib

/-!
# Rounding

A number that is neither zero nor infinite is stored in one way: with a mantissa
of fifty-three binary digits, or of fewer under the least exponent.  Rounding
brings a mantissa and an exponent into this form.  It changes nothing if the
value has such a form, and otherwise it keeps the size of the number.
-/

namespace BraceTemplate.Binary64

open Float.Model (Format totalExponent)
open Float.Model.UnpackedFloat (Accuracy ExtendedMantissa Sign roundWithAccuracy shiftToExponent
  shiftToTargetExponent)

/-- The mantissas and exponents that numbers other than zero are stored with. -/
structure Canonical (mantissa : Nat) (exponent : Int) : Prop where
  pos : 0 < mantissa
  lt : mantissa < 2 ^ 53
  least : -1074 ≤ exponent
  full : 2 ^ 52 ≤ mantissa ∨ exponent = -1074

/-! ## Sizes -/

theorem log2_eq_of_bounds {m n : Nat} (hlow : 2 ^ n ≤ m) (hhigh : m < 2 ^ (n + 1)) :
    m.log2 = n := by
  have hne : m ≠ 0 := by
    rintro rfl
    have := Nat.two_pow_pos n
    omega
  exact (Nat.log2_eq_iff hne).mpr ⟨hlow, hhigh⟩

theorem log2_mul_two_pow {m : Nat} (h : 0 < m) (k : Nat) : (m * 2 ^ k).log2 = m.log2 + k := by
  apply log2_eq_of_bounds
  · rw [pow_add]
    exact Nat.mul_le_mul_right _ (Nat.log2_self_le h.ne')
  · rw [Nat.add_right_comm, pow_add]
    exact Nat.mul_lt_mul_of_pos_right Nat.lt_log2_self (Nat.two_pow_pos k)

theorem targetExponent_eq (total : Int) :
    Format.binary64.targetExponent total = max (total - 53) (-1074) := by
  have hleast : Format.binary64.minExponent = -1074 := by decide
  rw [Format.targetExponent, hleast]
  rfl

theorem Canonical.targetExponent_eq {m : Nat} {e : Int} (h : Canonical m e) :
    Format.binary64.targetExponent (totalExponent m e) = e := by
  rw [Binary64.targetExponent_eq, totalExponent]
  rcases h.full with hfull | rfl
  · have := log2_eq_of_bounds hfull h.lt
    have := h.least
    omega
  · have := (Nat.log2_lt h.pos.ne').mpr h.lt
    omega

theorem Canonical.unique {m n : Nat} {e f : Int} (h : Canonical m e) (h' : Canonical n f)
    {a b : Nat} (hshift : e - f = a - b) (hvalue : m * 2 ^ a = n * 2 ^ b) : m = n ∧ e = f := by
  have hle : ∀ {m n : Nat} {e f : Int} {a b : Nat}, Canonical m e → Canonical n f →
      e - f = a - b → m * 2 ^ a = n * 2 ^ b → f ≤ e := by
    intro m n e f a b h h' hshift hvalue
    by_contra hlt
    obtain ⟨k, rfl⟩ : ∃ k : Nat, b = k + 1 + a := ⟨b - a - 1, by omega⟩
    have hm : m = n * 2 ^ (k + 1) := by
      rw [pow_add, ← Nat.mul_assoc] at hvalue
      exact Nat.eq_of_mul_eq_mul_right (Nat.two_pow_pos _) hvalue
    -- the other mantissa is full, so that this one would have a digit too many
    have hleast := h.least
    have hfull : 2 ^ 52 ≤ n := h'.full.resolve_right (by omega)
    have hlong : 2 ^ 52 * 2 ^ 1 ≤ n * 2 ^ (k + 1) :=
      Nat.mul_le_mul hfull (Nat.pow_le_pow_right (by decide) (by omega))
    have := h.lt
    omega
  obtain rfl : e = f :=
    le_antisymm (hle h' h (by omega) hvalue.symm) (hle h h' hshift hvalue)
  obtain rfl : a = b := by omega
  exact ⟨Nat.eq_of_mul_eq_mul_right (Nat.two_pow_pos _) hvalue, rfl⟩

/-! ## Shifts -/

theorem mantissa_shiftRight (em : ExtendedMantissa) (k : Nat) :
    (em >>> k).mantissa = em.mantissa / 2 ^ k := by
  change (k.repeat ExtendedMantissa.shiftRightOne em).mantissa = _
  induction k with
  | zero => simp [Nat.repeat]
  | succ k ih =>
      rw [Nat.repeat, ExtendedMantissa.shiftRightOne, ih, Nat.div_div_eq_div_mul, pow_succ]

theorem shiftRight_exact (m k : Nat) :
    ExtendedMantissa.ofMantissaAndAccuracy (m * 2 ^ k) .exact >>> k =
      ExtendedMantissa.ofMantissaAndAccuracy m .exact := by
  change k.repeat ExtendedMantissa.shiftRightOne _ = _
  induction k generalizing m with
  | zero => simp [Nat.repeat]
  | succ k ih =>
      have hassoc : m * 2 ^ (k + 1) = (m * 2) * 2 ^ k := by ring
      rw [Nat.repeat, hassoc, ih]
      simp [ExtendedMantissa.shiftRightOne, ExtendedMantissa.ofMantissaAndAccuracy]

theorem roundedMantissa_bounds (em : ExtendedMantissa) :
    em.mantissa ≤ em.roundedMantissa ∧ em.roundedMantissa ≤ em.mantissa + 1 := by
  obtain ⟨m, r, s⟩ := em
  cases r <;> cases s <;>
    simp [ExtendedMantissa.roundedMantissa, ExtendedMantissa.accuracy, Accuracy.roundToNearestEven]
  omega

namespace Canonical

variable {m : Nat} {e : Int} (h : Canonical m e)

include h

theorem shiftToTargetExponent_eq (k : Nat) :
    shiftToTargetExponent Format.binary64 (m * 2 ^ k) (e - k) .exact =
      (ExtendedMantissa.ofMantissaAndAccuracy m .exact, e) := by
  have htotal : totalExponent (m * 2 ^ k) (e - k) = totalExponent m e := by
    rw [totalExponent, totalExponent, log2_mul_two_pow h.pos]
    omega
  have hshift : (e - (e - k)).toNat = k := by omega
  rw [shiftToTargetExponent, htotal, h.targetExponent_eq, shiftToExponent, hshift,
    shiftRight_exact, Int.sub_add_cancel]

theorem roundWithAccuracy_of_first {mantissa : Nat} {exponent : Int} {accuracy : Accuracy}
    {first : ExtendedMantissa} {k : Nat}
    (hfirst : shiftToTargetExponent Format.binary64 mantissa exponent accuracy = (first, e - k))
    (hrounded : first.roundedMantissa = m * 2 ^ k) (s : Sign) :
    roundWithAccuracy Format.binary64 s mantissa exponent accuracy = .finite s m e h.pos := by
  have hmantissa : (ExtendedMantissa.ofMantissaAndAccuracy m .exact).mantissa = m := rfl
  unfold roundWithAccuracy
  simp only [hfirst, hrounded, h.shiftToTargetExponent_eq k, hmantissa, h.pos.ne', dite_false]

theorem roundWithAccuracy_eq (s : Sign) (k : Nat) :
    roundWithAccuracy Format.binary64 s (m * 2 ^ k) (e - k) .exact = .finite s m e h.pos := by
  have hrounded : (ExtendedMantissa.ofMantissaAndAccuracy m .exact).roundedMantissa = m := rfl
  refine h.roundWithAccuracy_of_first (k := 0) ?_ (by rw [hrounded, pow_zero, Nat.mul_one]) s
  rw [h.shiftToTargetExponent_eq k]
  simp

end Canonical

theorem exists_roundWithAccuracy {m : Nat} {e : Int} (hm : 2 ^ 52 ≤ m)
    (he : -1022 ≤ m.log2 + e) (s : Sign) :
    ∃ rounded exponent, ∃ h : Canonical rounded exponent,
      roundWithAccuracy Format.binary64 s m e .exact = .finite s rounded exponent h.pos ∧
      2 ^ 52 ≤ rounded ∧ m.log2 + e - 52 ≤ exponent ∧ exponent ≤ m.log2 + e - 51 := by
  have hne : m ≠ 0 := by omega
  have hlog : 52 ≤ m.log2 := (Nat.le_log2 hne).mpr hm
  obtain ⟨k, hk⟩ : ∃ k, m.log2 = 52 + k := ⟨m.log2 - 52, by omega⟩
  have htarget : Format.binary64.targetExponent (totalExponent m e) = e + k := by
    rw [targetExponent_eq, totalExponent]
    omega
  let shifted := ExtendedMantissa.ofMantissaAndAccuracy m .exact >>> k
  have hfirst : shiftToTargetExponent Format.binary64 m e .exact = (shifted, e + k) := by
    have hshift : (e + k - e).toNat = k := by omega
    rw [shiftToTargetExponent, htarget, shiftToExponent, hshift]
  have hquotient : shifted.mantissa = m / 2 ^ k := mantissa_shiftRight _ k
  have hlow : 2 ^ 52 ≤ shifted.mantissa := by
    rw [hquotient, Nat.le_div_iff_mul_le (Nat.two_pow_pos k), ← pow_add, ← hk]
    exact Nat.log2_self_le hne
  have hhigh : shifted.mantissa < 2 ^ 53 := by
    rw [hquotient, Nat.div_lt_iff_lt_mul (Nat.two_pow_pos k), ← pow_add,
      show 53 + k = m.log2 + 1 by omega]
    exact Nat.lt_log2_self
  obtain ⟨hround, hnext⟩ := roundedMantissa_bounds shifted
  rcases Nat.lt_or_ge shifted.roundedMantissa (2 ^ 53) with hlt | hge
  · have hcanonical : Canonical shifted.roundedMantissa (e + k) :=
      ⟨by omega, hlt, by omega, .inl (by omega)⟩
    refine ⟨_, _, hcanonical, ?_, by omega, by omega, by omega⟩
    exact hcanonical.roundWithAccuracy_of_first (k := 0) (by simpa using hfirst) (by simp) s
  · -- all digits are ones, and the last one is carried to the next power of two
    have hcanonical : Canonical (2 ^ 52) (e + k + 1) :=
      ⟨by omega, by omega, by omega, .inl le_rfl⟩
    refine ⟨_, _, hcanonical, ?_, le_rfl, by omega, by omega⟩
    exact hcanonical.roundWithAccuracy_of_first (k := 1) (by simpa using hfirst) (by omega) s

end BraceTemplate.Binary64
