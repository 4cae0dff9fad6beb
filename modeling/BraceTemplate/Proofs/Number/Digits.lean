import BraceTemplate.Proofs.Number.Integer
import BraceTemplate.Proofs.Text.Trim

/-!
# Digits as numbers and as words

A text of decimal digits can be read as a number and as an index.  The number is
rounded from `2 ^ 53` on and infinite in the end, and the index must fit a
machine word; below a small bound both give the value of the digits.
-/

namespace BraceTemplate

open Binary64

/-! ## Numbers of digits -/

theorem floatOfDecimal_cases (n : Nat) :
    floatOfDecimal n 0 = Float.ofNat n ∨ 2 ^ 53 ≤ n ∧ floatOfDecimal n 0 = 1.0 / 0.0 := by
  unfold floatOfDecimal
  by_cases hzero : n = 0
  · subst hzero
    exact .inl rfl
  by_cases hlong : 310 < ((Nat.repr n).length : Int) + 0
  · refine .inr ⟨?_, by rw [if_neg hzero, if_pos hlong]⟩
    by_contra hsmall
    have hfew : n < 10 ^ 16 := by omega
    have := (Nat.length_repr_le_iff (by decide)).mpr hfew
    omega
  · rw [if_neg hzero, if_neg hlong, if_neg (by omega)]
    exact .inl rfl

theorem saturatingIndex_ofNat {n : Nat} (h : n < 2 ^ 53) :
    saturatingIndex (Float.ofNat n) = n := by
  rcases Nat.eq_zero_or_pos n with rfl | hpos
  · rfl
  · have hlog : n.log2 < 53 := (Nat.log2_lt hpos.ne').mpr h
    have hwhole : wholePart (n * 2 ^ (52 - n.log2)) (n.log2 - 52) = n := by
      rw [wholePart, Int.toNat_of_nonpos (by omega : (n.log2 : Int) - 52 ≤ 0), pow_zero,
        Nat.mul_one, show (-((n.log2 : Int) - 52)).toNat = 52 - n.log2 by omega]
      exact Nat.mul_div_cancel _ (Nat.two_pow_pos _)
    rw [saturatingIndex_eq_clampToWord, ofFloat_eq_ofUnpacked, unpack_ofNat_of_lt hpos h,
      clampToWord_ofUnpacked_finite, hwhole]
    change min n maxWord = n
    unfold maxWord
    omega

theorem le_saturatingIndex_ofNat {n : Nat} (h : 2 ^ 53 ≤ n) :
    2 ^ 53 ≤ saturatingIndex (Float.ofNat n) := by
  rw [saturatingIndex_eq_clampToWord, ofFloat_eq_ofUnpacked]
  rcases unpack_ofNat_of_ge h with ⟨hunpack, -⟩ | ⟨m, e, hcanonical, hunpack, hfull, he⟩
  · rw [hunpack]
    decide
  · have hdouble : 2 ^ 1 ≤ 2 ^ e.toNat := Nat.pow_le_pow_right (by decide) (by omega)
    have hwhole : 2 ^ 52 * 2 ^ 1 ≤ wholePart m e := by
      rw [wholePart, Int.toNat_of_nonpos (by omega : -e ≤ 0), pow_zero, Nat.div_one]
      exact Nat.mul_le_mul hfull hdouble
    rw [hunpack, clampToWord_ofUnpacked_finite]
    change 2 ^ 53 ≤ min (wholePart m e) maxWord
    unfold maxWord
    omega

theorem saturatingIndex_floatOfDecimal_le_iff {n bound : Nat} (hbound : bound < 2 ^ 53) :
    saturatingIndex (floatOfDecimal n 0) ≤ bound ↔ n ≤ bound := by
  rcases floatOfDecimal_cases n with heq | ⟨hlarge, heq⟩
  · rw [heq]
    rcases Nat.lt_or_ge n (2 ^ 53) with hlt | hge
    · rw [saturatingIndex_ofNat hlt]
    · have := le_saturatingIndex_ofNat hge
      omega
  · have hmax : saturatingIndex (1.0 / 0.0) = maxWord := rfl
    rw [heq, hmax, maxWord]
    omega

theorem saturatingIndex_floatOfDecimal {n : Nat} (h : n < 2 ^ 53) :
    saturatingIndex (floatOfDecimal n 0) = n := by
  rcases floatOfDecimal_cases n with heq | ⟨hlarge, -⟩
  · rw [heq, saturatingIndex_ofNat h]
  · omega

theorem not_floatOfDecimal_lt_zero (n : Nat) : ¬ floatOfDecimal n 0 < 0.0 := by
  have hzero : (0.0 : Float).toModel.unpack = .zero .positive := rfl
  rw [lt_iff_compare, hzero]
  rcases floatOfDecimal_cases n with heq | ⟨-, heq⟩
  · rw [heq]
    rcases unpack_ofNat_cases n with hunpack | ⟨m, e, hpos, hunpack⟩ | ⟨hunpack, -⟩ <;>
      simp [hunpack, Float.Model.UnpackedFloat.compare]
  · have hinfinite : (1.0 / 0.0 : Float).toModel.unpack = .infinity .positive := rfl
    rw [heq, hinfinite]
    decide

/-! ## Texts of digits -/

namespace Text

theorem isDigits_iff {t : Text} : isDigits t = true ↔ t ≠ [] ∧ ∀ c ∈ t, c.isDigit = true := by
  simp [isDigits]

theorem isBlank_of_isDigit {c : Char} (h : c.isDigit = true) : isBlank c = false := by
  obtain ⟨hlow, hhigh⟩ := Char.isDigit_iff_toNat.mp h
  simp only [Char.reduceToNat] at hlow hhigh
  simp only [isBlank, Bool.or_eq_false_iff, Bool.and_eq_false_iff, decide_eq_false_iff_not,
    beq_eq_false_iff_ne]
  omega

section Digits

variable {t : Text} (h : isDigits t = true)

include h

theorem trim_of_isDigits : trim t = t := by
  obtain ⟨-, hdigits⟩ := isDigits_iff.mp h
  refine trim_eq_self (fun c hc => ?_) (fun c hc => ?_)
  · exact isBlank_of_isDigit (hdigits c (List.mem_of_head? hc))
  · exact isBlank_of_isDigit (hdigits c (List.mem_of_getLast? hc))

theorem exists_digit_cons : ∃ c rest, t = c :: rest ∧ c.isDigit = true := by
  obtain ⟨hne, hdigits⟩ := isDigits_iff.mp h
  obtain ⟨c, rest, rfl⟩ := List.exists_cons_of_ne_nil hne
  exact ⟨c, rest, rfl, hdigits c List.mem_cons_self⟩

theorem cutSign_of_isDigits : cutSign t = (false, t) := by
  obtain ⟨c, rest, rfl, hc⟩ := exists_digit_cons h
  unfold cutSign
  split <;> simp_all

theorem map_toLower_of_isDigits : t.map Char.toLower = t := by
  obtain ⟨-, hdigits⟩ := isDigits_iff.mp h
  refine (List.map_congr_left fun c hc => ?_).trans (List.map_id t)
  obtain ⟨hlow, hhigh⟩ := Char.isDigit_iff_toNat.mp (hdigits c hc)
  have hupper : ¬ ('A'.val ≤ c.val ∧ c.val ≤ 'Z'.val) := by
    rintro ⟨hletter, -⟩
    exact absurd (hletter.trans hhigh) (by decide)
  exact dif_neg hupper

theorem readDecimal?_of_isDigits : readDecimal? t = some (digitsValue t, 0) := by
  obtain ⟨hne, hdigits⟩ := isDigits_iff.mp h
  have hwhole : t.takeWhile Char.isDigit = t := List.takeWhile_eq_self_iff.mpr hdigits
  unfold readDecimal?
  simp [hwhole, hne, readPower?]

theorem readNumber?_of_isDigits : readNumber? t = some (floatOfDecimal (digitsValue t) 0) := by
  -- the words for what is no finite number are not made of digits
  have hword : ∀ word : String, isDigits word.toList = false →
      (String.ofList t == word) = false := by
    intro word hword
    rw [beq_eq_false_iff_ne]
    rintro rfl
    rw [String.toList_ofList, h] at hword
    cases hword
  unfold readNumber?
  simp only [cutSign_of_isDigits h, map_toLower_of_isDigits h, readDecimal?_of_isDigits h,
    hword "inf" (by decide), hword "infinity" (by decide), hword "nan" (by decide)]
  rfl

theorem readIndex?_of_isDigits :
    readIndex? t = if digitsValue t < 2 ^ 64 then some (digitsValue t) else none := by
  obtain ⟨c, rest, rfl, hc⟩ := exists_digit_cons h
  have hplus : c ≠ '+' := by
    rintro rfl
    cases hc
  unfold readIndex?
  split
  · simp_all
  · simp [h]

end Digits

/-! ## Written numbers -/

theorem isDigits_repr (n : Nat) : isDigits n.repr.toList = true := by
  rw [isDigits_iff, Nat.toList_repr]
  exact ⟨Nat.toDigits_ne_nil, fun c hc => Nat.isDigit_of_mem_toDigits (by decide) (by decide) hc⟩

theorem digitsValue_eq_ofDigitChars (t : Text) : digitsValue t = Nat.ofDigitChars 10 t 0 := by
  simp only [digitsValue, Nat.ofDigitChars, Nat.mul_comm]

theorem digitsValue_repr (n : Nat) : digitsValue n.repr.toList = n := by
  rw [digitsValue_eq_ofDigitChars, Nat.toList_repr, Nat.ofDigitChars_ten_toDigits]

theorem eq_zero_of_head?_repr {n : Nat} (h : n.repr.toList.head? = some '0') : n = 0 := by
  rw [Nat.toList_repr] at h
  induction n using Nat.strongRecOn with
  | ind n ih =>
      rcases Nat.lt_or_ge n 10 with hn | hn
      · rw [Nat.toDigits_of_lt_base hn] at h
        have hdigit : ∀ k < 10, [Nat.digitChar k].head? = some '0' → k = 0 := by decide
        exact hdigit n hn h
      · rw [Nat.toDigits_of_base_le (by decide) hn,
          List.head?_append_of_ne_nil _ Nat.toDigits_ne_nil] at h
        have := ih (n / 10) (by omega) h
        omega

theorem needsNoZero_repr (n : Nat) :
    (n.repr.toList.head? == some '0' && decide (1 < n.repr.toList.length)) = false := by
  by_cases hhead : n.repr.toList.head? = some '0'
  · obtain rfl := eq_zero_of_head?_repr hhead
    decide
  · rw [beq_false_of_ne hhead, Bool.false_and]

theorem toString_cases (n : Int) :
    (∃ k : Nat, n = k ∧ (toString n).toList = k.repr.toList) ∨
      ∃ k : Nat, 0 < k ∧ n = -k ∧ (toString n).toList = '-' :: k.repr.toList := by
  rw [Int.toString_eq_repr, Int.repr_eq_if]
  split
  · exact .inl ⟨n.toNat, by omega, rfl⟩
  · exact .inr ⟨(-n).toNat, by omega, by omega, String.toList_append⟩

end Text

end BraceTemplate
