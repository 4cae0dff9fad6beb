import BraceTemplate.Number.Shortest
import BraceTemplate.Proofs.Number.Integer

/-!
# The nearest number

Between the midpoints to its two neighbours, everything is rounded to a number.
Products and quotients are rounded as if they had been computed exactly, and so is
what a decimal stands for.
-/

namespace BraceTemplate

open Float.Model (Format UnpackedFloat totalExponent)
open Float.Model.UnpackedFloat (Accuracy ExtendedMantissa Sign accuracyOfFraction divCore
  roundWithAccuracy shiftToExponent shiftToTargetExponent)

/-- Lies in the interval, whose units are `2 ^ exponent / 4`. -/
def Decimal.Interval.Holds (interval : Interval) (exponent : Int) (x : ℚ) : Prop :=
  if interval.closed then
    interval.low * (2 : ℚ) ^ (exponent - 2) ≤ x ∧ x ≤ interval.high * (2 : ℚ) ^ (exponent - 2)
  else interval.low * (2 : ℚ) ^ (exponent - 2) < x ∧ x < interval.high * (2 : ℚ) ^ (exponent - 2)

namespace Binary64

/-! ## Digits that are cut off -/

def Represents : ExtendedMantissa → ℚ → Prop
  | ⟨m, false, false⟩, x => x = m
  | ⟨m, false, true⟩, x => m < x ∧ x < m + 1 / 2
  | ⟨m, true, false⟩, x => x = m + 1 / 2
  | ⟨m, true, true⟩, x => m + 1 / 2 < x ∧ x < m + 1

structure Nearest (n : Nat) (x : ℚ) : Prop where
  low : n - 1 / 2 ≤ x
  high : x ≤ n + 1 / 2
  strict : n % 2 = 1 → n - 1 / 2 < x ∧ x < n + 1 / 2

namespace Represents

variable {em : ExtendedMantissa} {x : ℚ}

theorem bounds (h : Represents em x) : em.mantissa ≤ x ∧ x < em.mantissa + 1 := by
  obtain ⟨m, r, s⟩ := em
  cases r <;> cases s <;> simp only [Represents] at h ⊢ <;> constructor <;> linarith

theorem roundedMantissa_eq (h : Represents em x) {n : Nat} (hn : Nearest n x) :
    em.roundedMantissa = n := by
  obtain ⟨hlow, hhigh⟩ := h.bounds
  have hle : 2 * em.mantissa ≤ 2 * n + 1 := by
    have := hn.high
    have hcast : (2 * em.mantissa : ℚ) ≤ 2 * n + 1 := by linarith
    exact_mod_cast hcast
  have hlt : 2 * n < 2 * em.mantissa + 3 := by
    have := hn.low
    have hcast : (2 * n : ℚ) < 2 * em.mantissa + 3 := by linarith
    exact_mod_cast hcast
  obtain ⟨m, r, s⟩ := em
  simp only at hle hlt
  rcases (by omega : n = m ∨ n = m + 1) with rfl | rfl
  · have := hn.high
    have := hn.strict
    cases r <;> cases s <;> simp only [Represents] at h
    · rfl
    · rfl
    · rcases Nat.mod_two_eq_zero_or_one n with heven | hodd
      · exact congrArg (n + ·) heven
      · linarith [(hn.strict hodd).2]
    · linarith
  · have := hn.low
    push_cast at this
    cases r <;> cases s <;> simp only [Represents] at h
    · linarith
    · linarith
    · rcases Nat.mod_two_eq_zero_or_one m with heven | hodd
      · have hstrict := (hn.strict (by omega)).1
        push_cast at hstrict
        linarith
      · exact congrArg (m + ·) hodd
    · rfl

theorem shiftRightOne (h : Represents em x) : Represents em.shiftRightOne (x / 2) := by
  obtain ⟨m, r, s⟩ := em
  have hparts : (m : ℚ) = 2 * (m / 2 : Nat) + (m % 2 : Nat) := by
    exact_mod_cast (Nat.div_add_mod m 2).symm
  have heven : (0 != 0) = false := rfl
  have hodd : (1 != 0) = true := rfl
  rcases Nat.mod_two_eq_zero_or_one m with hmod | hmod <;> rw [hmod] at hparts <;>
    push_cast at hparts <;> cases r <;> cases s <;> simp only [Represents, hparts] at h <;>
    simp only [ExtendedMantissa.shiftRightOne, hmod, heven, hodd, Bool.or_false, Bool.or_true,
      Represents] <;>
    first | linarith | (constructor <;> linarith)

theorem shiftRight (h : Represents em x) (k : Nat) : Represents (em >>> k) (x / 2 ^ k) := by
  change Represents (k.repeat ExtendedMantissa.shiftRightOne em) _
  induction k with
  | zero => simpa [Nat.repeat] using h
  | succ k ih =>
      rw [Nat.repeat, pow_succ, ← div_div]
      exact ih.shiftRightOne

end Represents

theorem represents_exact (m : Nat) :
    Represents (ExtendedMantissa.ofMantissaAndAccuracy m .exact) m := rfl

theorem represents_quotient (n : Nat) {d : Nat} (hd : 0 < d) :
    Represents (ExtendedMantissa.ofMantissaAndAccuracy (n / d) (accuracyOfFraction (n % d) d))
      (n / d) := by
  have hpos : (0 : ℚ) < d := by exact_mod_cast hd
  have hparts : (n / d : ℚ) = (n / d : Nat) + (n % d : Nat) / d := by
    have hsum : (n : ℚ) = d * (n / d : Nat) + (n % d : Nat) := by
      exact_mod_cast (Nat.div_add_mod n d).symm
    field_simp
    linarith
  have hrest : ((n % d : Nat) : ℚ) < d := by exact_mod_cast Nat.mod_lt n hd
  rw [hparts, accuracyOfFraction]
  split
  · rename_i hzero
    simp [ExtendedMantissa.ofMantissaAndAccuracy, Represents, hzero]
  · rename_i hnonzero
    have hsome : (0 : ℚ) < (n % d : Nat) := by exact_mod_cast Nat.pos_of_ne_zero hnonzero
    cases hcompare : compare (2 * (n % d)) d with
    | lt =>
        have hhalf : (2 * (n % d : Nat) : ℚ) < d := by exact_mod_cast compare_lt_iff_lt.mp hcompare
        refine ⟨?_, ?_⟩
        · have := div_pos hsome hpos
          linarith
        · have : ((n % d : Nat) : ℚ) / d < 1 / 2 := by
            rw [div_lt_iff₀ hpos]
            linarith
          linarith
    | eq =>
        have hhalf : (2 * (n % d : Nat) : ℚ) = d := by exact_mod_cast compare_eq_iff_eq.mp hcompare
        change _ = ((n / d : Nat) : ℚ) + 1 / 2
        rw [← hhalf]
        field_simp
    | gt =>
        have hhalf : (d : ℚ) < 2 * (n % d : Nat) := by exact_mod_cast compare_gt_iff_gt.mp hcompare
        refine ⟨?_, ?_⟩
        · have : 1 / 2 < ((n % d : Nat) : ℚ) / d := by
            rw [lt_div_iff₀ hpos]
            linarith
          linarith
        · have : ((n % d : Nat) : ℚ) / d < 1 := (div_lt_one hpos).mpr hrest
          linarith

/-! ## Powers of two -/

theorem zpow_add_le_iff (k e : Int) (x : ℚ) : (2 : ℚ) ^ (k + e) ≤ x ↔ 2 ^ k ≤ x / 2 ^ e := by
  rw [zpow_add₀ two_ne_zero, le_div_iff₀ (by positivity)]

theorem lt_zpow_add_iff (k e : Int) (x : ℚ) : x < (2 : ℚ) ^ (k + e) ↔ x / 2 ^ e < 2 ^ k := by
  rw [zpow_add₀ two_ne_zero, div_lt_iff₀ (by positivity)]

section Digits

variable {q : Nat} {E : Int} {x : ℚ} (hq : (q : ℚ) ≤ x / 2 ^ E ∧ x / 2 ^ E < q + 1)

include hq

theorem lt_zpow_of_digits : x < 2 ^ (q.log2 + 1 + E) := by
  have hle : ((q + 1 : Nat) : ℚ) ≤ (2 ^ (q.log2 + 1) : Nat) := by exact_mod_cast Nat.lt_log2_self
  push_cast at hle
  rw [lt_zpow_add_iff]
  exact hq.2.trans_le (by exact_mod_cast hle)

theorem zpow_le_of_digits (hpos : 0 < q) : (2 : ℚ) ^ (q.log2 + E) ≤ x := by
  have hle : ((2 ^ q.log2 : Nat) : ℚ) ≤ q := by exact_mod_cast Nat.log2_self_le hpos.ne'
  rw [zpow_add_le_iff, zpow_natCast]
  exact (by exact_mod_cast hle : (2 : ℚ) ^ q.log2 ≤ q).trans hq.1

end Digits

/-! ## Rounding in the interval -/

theorem quarters_of_holds {m : Nat} {e : Int} {x : ℚ}
    (hx : (Decimal.Interval.ofMantissa m e).Holds e x) :
    (Decimal.Interval.ofMantissa m e).low ≤ 4 * (x / 2 ^ e) ∧ 4 * (x / 2 ^ e) ≤ 4 * m + 2 ∧
      (m % 2 = 1 → (Decimal.Interval.ofMantissa m e).low < 4 * (x / 2 ^ e) ∧
        4 * (x / 2 ^ e) < 4 * m + 2) := by
  have hpos : (0 : ℚ) < 2 ^ e := by positivity
  have hunit : (2 : ℚ) ^ (e - 2) = 2 ^ e / 4 := by
    rw [zpow_sub₀ two_ne_zero]
    norm_num
  have hvalue : x = 4 * (x / 2 ^ e) * (2 ^ e / 4) := by field_simp
  have hquarter : (0 : ℚ) < 2 ^ e / 4 := by positivity
  have hhigh : ((Decimal.Interval.ofMantissa m e).high : ℚ) = 4 * m + 2 := by
    simp [Decimal.Interval.ofMantissa]
  rw [Decimal.Interval.Holds, hunit, hhigh] at hx
  split at hx
  · rename_i hclosed
    obtain ⟨hlow, hhigh⟩ := hx
    have heven : m % 2 = 0 := by simpa [Decimal.Interval.ofMantissa] using hclosed
    rw [hvalue, mul_le_mul_iff_left₀ hquarter] at hlow hhigh
    exact ⟨hlow, hhigh, fun hodd => by omega⟩
  · obtain ⟨hlow, hhigh⟩ := hx
    rw [hvalue, mul_lt_mul_iff_left₀ hquarter] at hlow hhigh
    exact ⟨hlow.le, hhigh.le, fun _ => ⟨hlow, hhigh⟩⟩

theorem low_ofMantissa {m : Nat} (hm : 0 < m) (e : Int) :
    ((Decimal.Interval.ofMantissa m e).low : ℚ) =
      if m = 2 ^ 52 ∧ -1074 < e then 4 * (m : ℚ) - 1 else 4 * m - 2 := by
  simp only [Decimal.Interval.ofMantissa, Nat.pow_eq]
  split <;> push_cast [show 1 ≤ 4 * m by omega, show 2 ≤ 4 * m by omega] <;> rfl

section Interval

variable {m : Nat} {e : Int} (h : Canonical m e) {x : ℚ}
  (hx : (Decimal.Interval.ofMantissa m e).Holds e x)

include h hx

theorem le_four_mul_div : 4 * (m : ℚ) - 2 ≤ 4 * (x / 2 ^ e) := by
  have hlow := (quarters_of_holds hx).1
  rw [low_ofMantissa h.pos] at hlow
  split at hlow <;> linarith

theorem nearest_of_holds : Nearest m (x / 2 ^ e) := by
  obtain ⟨-, hhigh, hstrict⟩ := quarters_of_holds hx
  have hlow := le_four_mul_div h hx
  refine ⟨by linarith, by linarith, fun hodd => ?_⟩
  obtain ⟨hlow', hhigh'⟩ := hstrict hodd
  rw [low_ofMantissa h.pos] at hlow'
  split at hlow' <;> constructor <;> linarith

theorem nearest_double_of_holds (hm : m = 2 ^ 52) (he : -1074 < e) (hlt : x / 2 ^ e < m) :
    Nearest (m * 2) (x / 2 ^ (e - 1)) := by
  have hlow := (quarters_of_holds hx).1
  rw [low_ofMantissa h.pos, if_pos ⟨hm, he⟩] at hlow
  have hdouble : x / 2 ^ (e - 1) = 2 * (x / 2 ^ e) := by
    rw [zpow_sub_one₀ two_ne_zero]
    field_simp
  rw [hdouble]
  refine ⟨?_, ?_, fun hodd => by omega⟩ <;> push_cast <;> linarith

theorem bounds_of_holds :
    2 ^ (e - 1) ≤ x ∧ x < 2 ^ (53 + e) ∧ (e ≠ -1074 → 2 ^ (51 + e) ≤ x) := by
  have hlow := le_four_mul_div h hx
  have hhigh := (quarters_of_holds hx).2.1
  have hpos : (1 : ℚ) ≤ m := by exact_mod_cast h.pos
  have hlt : (m : ℚ) ≤ 2 ^ 53 - 1 := by
    have hle : m + 1 ≤ 2 ^ 53 := h.lt
    have hcast : ((m + 1 : Nat) : ℚ) ≤ (2 ^ 53 : Nat) := by exact_mod_cast hle
    push_cast at hcast
    linarith
  refine ⟨?_, ?_, fun he => ?_⟩
  · rw [sub_eq_neg_add, zpow_add_le_iff, zpow_neg_one]
    linarith
  · rw [lt_zpow_add_iff, zpow_ofNat]
    linarith
  · have hnormal : (2 : ℚ) ^ 52 ≤ m := by exact_mod_cast h.full.resolve_right he
    rw [zpow_add_le_iff, zpow_ofNat]
    linarith

theorem mantissa_eq_of_short (he : e ≠ -1074) (hless : x / 2 ^ e < 2 ^ 52) : m = 2 ^ 52 := by
  have hlow := le_four_mul_div h hx
  have hcast : (m : ℚ) < (2 ^ 52 + 1 : Nat) := by
    push_cast
    linarith
  have hlt : m < 2 ^ 52 + 1 := by exact_mod_cast hcast
  have := h.full.resolve_right he
  omega

theorem targetExponent_of_holds {q : Nat} {E : Int}
    (hq : (q : ℚ) ≤ x / 2 ^ E ∧ x / 2 ^ E < q + 1)
    (hE : E ≤ Format.binary64.targetExponent (totalExponent q E)) :
    Format.binary64.targetExponent (totalExponent q E) = e ∨
      Format.binary64.targetExponent (totalExponent q E) = e - 1 ∧ m = 2 ^ 52 ∧ -1074 < e ∧
        x / 2 ^ e < m := by
  have hplace : ∀ {a b : Int}, (2 : ℚ) ^ a < 2 ^ b → a < b :=
    fun hlt => (zpow_lt_zpow_iff_right₀ one_lt_two).mp hlt
  obtain ⟨-, hall, hlong⟩ := bounds_of_holds h hx
  have hbelow := lt_zpow_of_digits hq
  have hleast := h.least
  rw [Binary64.targetExponent_eq, totalExponent] at hE ⊢
  rcases Nat.eq_zero_or_pos q with rfl | hqpos
  · have hsmall : e = -1074 := by
      by_contra he
      have := hplace ((hlong he).trans_lt hbelow)
      simp only [Nat.log2_zero] at this hE
      omega
    simp only [Nat.log2_zero] at hE ⊢
    omega
  · have habove := zpow_le_of_digits hq hqpos
    have htop := hplace (habove.trans_lt hall)
    by_cases he : e = -1074
    · omega
    · have hbottom := hplace ((hlong he).trans_lt hbelow)
      rcases le_or_gt (2 ^ 52) (x / 2 ^ e) with hge | hless
      · have hfull : (2 : ℚ) ^ (52 + e) ≤ x := (zpow_add_le_iff 52 e x).mpr (by exact_mod_cast hge)
        have := hplace (hfull.trans_lt hbelow)
        omega
      · have hshort : x < (2 : ℚ) ^ (52 + e) :=
          (lt_zpow_add_iff 52 e x).mpr (by exact_mod_cast hless)
        have := hplace (habove.trans_lt hshort)
        have hm := mantissa_eq_of_short h hx he hless
        refine .inr ⟨by omega, hm, by omega, ?_⟩
        rw [hm]
        exact_mod_cast hless

theorem roundWithAccuracy_of_holds {q : Nat} {E : Int} {accuracy : Accuracy}
    (hrepresents : Represents (ExtendedMantissa.ofMantissaAndAccuracy q accuracy) (x / 2 ^ E))
    (hE : E ≤ Format.binary64.targetExponent (totalExponent q E)) (s : Sign) :
    roundWithAccuracy Format.binary64 s q E accuracy = .finite s m e h.pos := by
  have hmantissa : (ExtendedMantissa.ofMantissaAndAccuracy q accuracy).mantissa = q := by
    unfold ExtendedMantissa.ofMantissaAndAccuracy
    split <;> rfl
  have hbounds := hrepresents.bounds
  rw [hmantissa] at hbounds
  let target := Format.binary64.targetExponent (totalExponent q E)
  obtain ⟨k, hk⟩ : ∃ k : Nat, target = E + k := ⟨(target - E).toNat, by omega⟩
  let first := ExtendedMantissa.ofMantissaAndAccuracy q accuracy >>> k
  have hfirst : shiftToTargetExponent Format.binary64 q E accuracy = (first, target) := by
    have hshift : (target - E).toNat = k := by omega
    change shiftToExponent q E accuracy target = _
    rw [shiftToExponent, hshift, hk]
  have hshifted : Represents first (x / 2 ^ target) := by
    rw [hk, zpow_add₀ two_ne_zero, zpow_natCast, ← div_div]
    exact hrepresents.shiftRight k
  rcases targetExponent_of_holds h hx hbounds hE with hsame | ⟨hfiner, hm, he, hlt⟩
  · have hnearest := nearest_of_holds h hx
    rw [← hsame] at hnearest
    refine h.roundWithAccuracy_of_first (k := 0) (hfirst.trans (congrArg (Prod.mk first) ?_)) ?_ s
    · rw [Nat.cast_zero, Int.sub_zero]
      exact hsame
    · rw [pow_zero, Nat.mul_one]
      exact hshifted.roundedMantissa_eq hnearest
  · have hnearest := nearest_double_of_holds h hx hm he hlt
    rw [← hfiner] at hnearest
    refine h.roundWithAccuracy_of_first (k := 1) (hfirst.trans (congrArg (Prod.mk first) ?_)) ?_ s
    · rw [Nat.cast_one]
      exact hfiner
    · rw [pow_one]
      exact hshifted.roundedMantissa_eq hnearest

end Interval

end Binary64

end BraceTemplate
