import BraceTemplate.Proofs.Number.Nearest

/-!
# The shortest decimal lies in the interval

The search for a decimal goes to finer and finer grids.  As soon as a grid is as fine
as the interval there is a point in it, and the search always gets that far.
-/

namespace BraceTemplate.Decimal

open Binary64

/-! ## Grids -/

theorem contains_of_nearest? {tie : Tie} {interval : Interval} {unit grid point : Nat}
    (h : nearest? tie interval unit grid = some point) :
    interval.contains unit grid point = true := by
  unfold nearest? at h
  dsimp only at h
  split at h
  · split at h
    · obtain rfl := Option.some.inj h
      assumption
    · split at h
      · obtain rfl := Option.some.inj h
        assumption
      · split at h <;> obtain rfl := Option.some.inj h <;> assumption
  · obtain rfl := Option.some.inj h
    assumption
  · obtain rfl := Option.some.inj h
    assumption
  · cases h

theorem nearest?_ne_none (tie : Tie) {m : Nat} {e : Int} {unit grid : Nat} (hgrid : 0 < grid)
    (hfine : grid ≤ unit) : nearest? tie (Interval.ofMantissa m e) unit grid ≠ none := by
  let value := 4 * m * unit
  have hpoint : (Interval.ofMantissa m e).contains unit grid (value / grid + 1) = true := by
    have hlow : (Interval.ofMantissa m e).low * unit ≤ value :=
      Nat.mul_le_mul_right unit (Nat.sub_le _ _)
    have hhigh : (Interval.ofMantissa m e).high * unit = value + 2 * unit := Nat.add_mul _ _ _
    have habove : value < (value / grid + 1) * grid :=
      Nat.lt_div_mul_add hgrid |>.trans_eq (by ring)
    have hnext : (value / grid + 1) * grid ≤ value + grid := by
      rw [Nat.add_mul, Nat.one_mul]
      exact Nat.add_le_add_right (Nat.div_mul_le_self _ _) _
    unfold Interval.contains
    dsimp only
    rw [hhigh]
    split <;> simp only [Bool.and_eq_true, decide_eq_true_eq] <;> omega
  intro hnone
  unfold nearest? at hnone
  dsimp only at hnone
  split at hnone
  · split at hnone
    · cases hnone
    · split at hnone
      · cases hnone
      · split at hnone <;> cases hnone
  · cases hnone
  · cases hnone
  · rename_i hnot
    exact absurd hpoint (Bool.eq_false_iff.mp hnot)

def gridAt (exponent place : Int) : Nat := 10 ^ place.toNat * 2 ^ (2 - exponent).toNat

def unitAt (exponent place : Int) : Nat := 2 ^ (exponent - 2).toNat * 10 ^ (-place).toNat

theorem holds_of_contains {interval : Interval} {exponent place : Int} {point : Nat}
    (h : interval.contains (unitAt exponent place) (gridAt exponent place) point = true) :
    interval.Holds exponent (point * 10 ^ place) := by
  have hsplit : ∀ {base : ℚ}, 0 < base → ∀ power : Int,
      base ^ power = base ^ power.toNat / base ^ (-power).toNat := by
    intro base hbase power
    rw [← zpow_natCast, ← zpow_natCast, ← zpow_sub₀ hbase.ne']
    congr 1
    omega
  have htwo := hsplit two_pos (exponent - 2)
  have hten := hsplit (by norm_num : (0 : ℚ) < 10) place
  rw [neg_sub] at htwo
  have hden : (0 : ℚ) < 2 ^ (2 - exponent).toNat := by positivity
  have hden' : (0 : ℚ) < 10 ^ (-place).toNat := by positivity
  have hscale : ∀ bound : Nat, ((bound * unitAt exponent place : Nat) : ℚ) =
      bound * 2 ^ (exponent - 2).toNat * 10 ^ (-place).toNat := by
    intro bound
    rw [unitAt]
    push_cast
    ring
  have hpoint : ((point * gridAt exponent place : Nat) : ℚ) =
      point * 10 ^ place.toNat * 2 ^ (2 - exponent).toNat := by
    rw [gridAt]
    push_cast
    ring
  unfold Interval.contains at h
  unfold Interval.Holds
  rw [htwo, hten, ← mul_div_assoc, ← mul_div_assoc, ← mul_div_assoc]
  dsimp only at h
  split at h <;> rename_i hclosed <;> simp only [hclosed] <;>
    simp only [Bool.and_eq_true, decide_eq_true_eq] at h
  · refine ⟨(div_le_div_iff₀ hden hden').mpr ?_, (div_le_div_iff₀ hden' hden).mpr ?_⟩
    · rw [← hscale, ← hpoint]
      exact_mod_cast h.1
    · rw [← hscale, ← hpoint]
      exact_mod_cast h.2
  · refine ⟨(div_lt_div_iff₀ hden hden').mpr ?_, (div_lt_div_iff₀ hden' hden).mpr ?_⟩
    · rw [← hscale, ← hpoint]
      exact_mod_cast h.1
    · rw [← hscale, ← hpoint]
      exact_mod_cast h.2

theorem search_succ (tie : Tie) (interval : Interval) (exponent : Int) (fuel : Nat) (place : Int) :
    search tie interval exponent (fuel + 1) place =
      match nearest? tie interval (unitAt exponent place) (gridAt exponent place) with
      | some digits => ⟨digits, place⟩
      | none => search tie interval exponent fuel (place - 1) := rfl

theorem holds_search (tie : Tie) {m : Nat} {e fine : Int}
    (hfine : gridAt e fine ≤ unitAt e fine) {fuel : Nat} {place : Int} (hplace : fine ≤ place)
    (hfuel : place - fine < fuel) :
    (Interval.ofMantissa m e).Holds e
      ((search tie (Interval.ofMantissa m e) e fuel place).digits *
        10 ^ (search tie (Interval.ofMantissa m e) e fuel place).exponent) := by
  induction fuel generalizing place with
  | zero => omega
  | succ fuel ih =>
      rw [search_succ]
      cases hnearest : nearest? tie (Interval.ofMantissa m e) (unitAt e place) (gridAt e place) with
      | some digits => exact holds_of_contains (contains_of_nearest? hnearest)
      | none =>
          have hcoarse : place ≠ fine := by
            rintro rfl
            exact nearest?_ne_none tie (by unfold gridAt; positivity) hfine hnearest
          exact ih (by omega) (by omega)

/-! ## Places -/

theorem ten_pow_le_two_pow {k l : Nat} (h : 10 * (k + 2) ≤ 3 * l) : 10 ^ k ≤ 2 ^ l := by
  calc 10 ^ k ≤ 10 ^ (3 * ((k + 2) / 3)) := Nat.pow_le_pow_right (by decide) (by omega)
    _ = (10 ^ 3) ^ ((k + 2) / 3) := pow_mul _ _ _
    _ ≤ (2 ^ 10) ^ ((k + 2) / 3) := Nat.pow_le_pow_left (by decide) _
    _ = 2 ^ (10 * ((k + 2) / 3)) := (pow_mul _ _ _).symm
    _ ≤ 2 ^ l := Nat.pow_le_pow_right (by decide) (by omega)

theorem two_pow_le_ten_pow {k l : Nat} (h : 4 * (l + 12) ≤ 13 * k) : 2 ^ l ≤ 10 ^ k := by
  calc 2 ^ l ≤ 2 ^ (13 * ((l + 12) / 13)) := Nat.pow_le_pow_right (by decide) (by omega)
    _ = (2 ^ 13) ^ ((l + 12) / 13) := pow_mul _ _ _
    _ ≤ (10 ^ 4) ^ ((l + 12) / 13) := Nat.pow_le_pow_left (by decide) _
    _ = 10 ^ (4 * ((l + 12) / 13)) := (pow_mul _ _ _).symm
    _ ≤ 10 ^ k := Nat.pow_le_pow_right (by decide) (by omega)

theorem gridAt_le_unitAt {m : Nat} {e : Int} (h : Canonical m e) (he : e ≤ 971) :
    gridAt e ((m.log2 + e) * 30103 / 100000 + 2 - 39) ≤
      unitAt e ((m.log2 + e) * 30103 / 100000 + 2 - 39) := by
  have hleast := h.least
  have hlog : m.log2 < 53 := (Nat.log2_lt h.pos.ne').mpr h.lt
  obtain ⟨place, hplace⟩ : ∃ place, place = (m.log2 + e) * 30103 / 100000 + 2 - 39 := ⟨_, rfl⟩
  rw [← hplace, gridAt, unitAt]
  rcases le_or_gt 2 e with hlarge | hsmall
  · rw [show (2 - e).toNat = 0 by omega, pow_zero, Nat.mul_one]
    refine le_trans ?_ (Nat.le_mul_of_pos_right _ (Nat.pow_pos (by decide)))
    rcases le_or_gt place 0 with hnegative | hpositive
    · rw [Int.toNat_of_nonpos hnegative, pow_zero]
      exact Nat.two_pow_pos _
    · exact ten_pow_le_two_pow (by omega)
  · rw [show place.toNat = 0 by omega, show (e - 2).toNat = 0 by omega, pow_zero, pow_zero,
      Nat.one_mul, Nat.one_mul]
    exact two_pow_le_ten_pow (by omega)

/-! ## The decimal -/

theorem value_trimZeros (fuel : Nat) (d : Decimal) :
    ((trimZeros fuel d).digits * 10 ^ (trimZeros fuel d).exponent : ℚ) =
      d.digits * 10 ^ d.exponent := by
  induction fuel generalizing d with
  | zero => rfl
  | succ fuel ih =>
      rw [trimZeros]
      split
      · rename_i hzeros
        rw [ih]
        have hdigits : (d.digits : ℚ) = (d.digits / 10 : Nat) * 10 := by
          exact_mod_cast (Nat.div_mul_cancel (Nat.dvd_of_mod_eq_zero hzeros.2)).symm
        rw [hdigits, zpow_add_one₀ (by norm_num)]
        ring
      · rfl

theorem holds_shortest (tie : Tie) {m : Nat} {e : Int} (h : Canonical m e) (he : e ≤ 971) :
    (Interval.ofMantissa m e).Holds e
      ((shortest tie m e).digits * 10 ^ (shortest tie m e).exponent) := by
  rw [shortest, if_neg h.pos.ne', value_trimZeros]
  exact holds_search tie (gridAt_le_unitAt h he) (by omega) (by omega)

end BraceTemplate.Decimal
