import BraceTemplate.Number.Written
import BraceTemplate.Proofs.Number.Digits

/-!
# Digits in their places

A decimal that is written with all digits in their places has digits on both sides
of the point, and together they have its value.
-/

namespace BraceTemplate

namespace Text

theorem digitsValue_append_zeros (t : Text) (k : Nat) :
    digitsValue (t ++ List.replicate k '0') = digitsValue t * 10 ^ k := by
  rw [digitsValue_eq_ofDigitChars, digitsValue_eq_ofDigitChars, Nat.ofDigitChars_append,
    Nat.ofDigitChars_replicate_zero, Nat.mul_comm]

theorem digitsValue_zeros_append (k : Nat) (t : Text) :
    digitsValue (List.replicate k '0' ++ t) = digitsValue t := by
  rw [digitsValue_eq_ofDigitChars, digitsValue_eq_ofDigitChars, Nat.ofDigitChars_append,
    Nat.ofDigitChars_replicate_zero, Nat.mul_zero]

end Text

namespace Decimal

open Text

structure Pointed (t whole fraction : Text) (value : ℚ) : Prop where
  text : t = whole ++ '.' :: fraction
  isDigits_whole : isDigits whole = true
  isDigits_fraction : isDigits fraction = true
  needsNoZero : (whole.head? == some '0' && decide (1 < whole.length)) = false
  value : (digitsValue (whole ++ fraction) : ℚ) * 10 ^ (-(fraction.length : Int)) = value

theorem exists_positional_of_nonneg {digits : Nat} {zeros : Nat} (hzero : digits = 0 → zeros = 0) :
    ∃ whole fraction, Pointed (positional ⟨digits, zeros⟩ ++ ".0").toList whole fraction
      (digits * 10 ^ (zeros : Int)) := by
  obtain ⟨hne, hdigits⟩ := isDigits_iff.mp (isDigits_repr digits)
  refine ⟨digits.repr.toList ++ List.replicate zeros '0', ['0'], ?_, ?_, rfl, ?_, ?_⟩
  · simp [positional]
  · refine isDigits_iff.mpr ⟨by simp, fun c hc => ?_⟩
    rcases List.mem_append.mp hc with hmem | hmem
    · exact hdigits c hmem
    · rw [(List.mem_replicate.mp hmem).2]
      rfl
  · rw [List.head?_append_of_ne_nil _ hne]
    by_cases hfirst : digits.repr.toList.head? = some '0'
    · obtain rfl := eq_zero_of_head?_repr hfirst
      rw [hzero rfl]
      decide
    · rw [beq_false_of_ne hfirst, Bool.false_and]
  · have hall : digitsValue (digits.repr.toList ++ List.replicate zeros '0' ++ ['0']) =
        digits * 10 ^ (zeros + 1) := by
      have hzeros : List.replicate zeros '0' ++ ['0'] = List.replicate (zeros + 1) '0' :=
        List.replicate_succ'.symm
      rw [List.append_assoc, hzeros, digitsValue_append_zeros, digitsValue_repr]
    rw [hall, zpow_neg, zpow_natCast, zpow_natCast]
    push_cast
    rw [pow_succ]
    field_simp
    simp

theorem exists_positional_of_neg {digits : Nat} (hdigits : digits ≠ 0) {places : Nat}
    (hplaces : 0 < places) :
    ∃ whole fraction, Pointed (positional ⟨digits, -places⟩).toList whole fraction
      (digits * 10 ^ (-places : Int)) := by
  let padded := List.replicate (places + 1 - digits.repr.toList.length) '0' ++ digits.repr.toList
  have hlength : padded.length = max digits.repr.toList.length (places + 1) := by
    simp only [padded, List.length_append, List.length_replicate]
    omega
  have hall : ∀ c ∈ padded, c.isDigit = true := by
    intro c hc
    rcases List.mem_append.mp hc with hmem | hmem
    · rw [(List.mem_replicate.mp hmem).2]
      rfl
    · exact (isDigits_iff.mp (isDigits_repr digits)).2 c hmem
  refine ⟨padded.take (padded.length - places), padded.drop (padded.length - places), ?_, ?_, ?_,
    ?_, ?_⟩
  · have hnegative : ¬ (0 : Int) ≤ -places := by omega
    have hcount : (- -(places : Int)).toNat = places := by omega
    simp only [positional, if_neg hnegative, hcount, String.toList_append, String.toList_ofList]
    exact List.append_assoc _ _ _
  · refine isDigits_iff.mpr ⟨?_, fun c hc => hall c (List.mem_of_mem_take hc)⟩
    rw [← List.length_pos_iff, List.length_take]
    omega
  · refine isDigits_iff.mpr ⟨?_, fun c hc => hall c (List.mem_of_mem_drop hc)⟩
    rw [← List.length_pos_iff, List.length_drop]
    omega
  · by_cases hlong : places + 1 ≤ digits.repr.toList.length
    · -- no zeros stand in front
      have hbare : padded = digits.repr.toList := by
        simp only [padded, Nat.sub_eq_zero_of_le hlong, List.replicate_zero, List.nil_append]
      have hfirst : digits.repr.toList.head? ≠ some '0' := mt eq_zero_of_head?_repr hdigits
      rw [List.head?_take, if_neg (by omega), hbare, beq_false_of_ne hfirst, Bool.false_and]
    · rw [List.length_take, decide_eq_false (by omega), Bool.and_false]
  · rw [List.take_append_drop, List.length_drop,
      show padded.length - (padded.length - places) = places by omega, digitsValue_zeros_append,
      digitsValue_repr]

theorem exists_positional {d : Decimal} (hzero : d.digits = 0 → d.exponent = 0) :
    ∃ whole fraction, Pointed (d.positional ++ if 0 ≤ d.exponent then ".0" else "").toList whole
      fraction (d.digits * 10 ^ d.exponent) := by
  obtain ⟨digits, exponent⟩ := d
  rcases le_or_gt 0 exponent with hnonnegative | hnegative
  · obtain ⟨zeros, rfl⟩ := Int.eq_ofNat_of_zero_le hnonnegative
    rw [if_pos hnonnegative]
    exact exists_positional_of_nonneg fun hdigits => by simpa using hzero hdigits
  · obtain ⟨places, rfl⟩ : ∃ places : Nat, exponent = -places := ⟨(-exponent).toNat, by omega⟩
    rw [if_neg (not_le.mpr hnegative), String.append_empty]
    exact exists_positional_of_neg (fun hdigits => hnegative.ne (hzero hdigits)) (by omega)

end Decimal

end BraceTemplate
