import BraceTemplate.Proofs.Json.Token
import BraceTemplate.Proofs.Number.Digits

/-!
# Integers in JSON

An integer that fits a machine word is read back as itself.
-/

namespace BraceTemplate.Json

open Text

theorem readMagnitude?_repr {negative : Bool} {n : Nat}
    (h : if negative then 0 < n ∧ n ≤ 2 ^ 63 else n < 2 ^ 64) :
    readMagnitude? negative n.repr.toList = some (.integer (if negative then -n else n)) := by
  obtain ⟨hne, hdigits⟩ := isDigits_iff.mp (isDigits_repr n)
  have hwhole : n.repr.toList.takeWhile Char.isDigit = n.repr.toList :=
    List.takeWhile_eq_self_iff.mpr hdigits
  unfold readMagnitude?
  simp only [hwhole, List.drop_length, needsNoZero_repr, List.isEmpty_eq_false_iff.mpr hne,
    digitsValue_repr, Bool.or_self, Bool.false_eq_true, if_false]
  cases negative with
  | true =>
      obtain ⟨hpos, hfits⟩ : 0 < n ∧ n ≤ 2 ^ 63 := h
      simp only [if_true, if_neg hpos.ne', if_pos hfits, Nat.pow_eq]
  | false =>
      have hfits : n < 2 ^ 64 := h
      simp only [Bool.false_eq_true, if_false, if_pos hfits, Nat.pow_eq]

theorem readNumber?_of_isDigits {t : Text} (h : isDigits t = true) :
    readNumber? t = readMagnitude? false t := by
  obtain ⟨c, rest, rfl, hc⟩ := exists_digit_cons h
  rw [readNumber?]
  rintro more heq
  obtain ⟨rfl, -⟩ := List.cons.inj heq
  cases hc

section Integer

variable {n : Int}

theorem readNumber?_toString (hlow : -2 ^ 63 ≤ n) (hhigh : n < 2 ^ 64) :
    readNumber? (toString n).toList = some (.integer n) := by
  rcases toString_cases n with ⟨k, rfl, htext⟩ | ⟨k, hpos, rfl, htext⟩
  · have hfits : if false then 0 < k ∧ k ≤ 2 ^ 63 else k < 2 ^ 64 := by
      rw [if_neg Bool.false_ne_true]
      omega
    rw [htext, readNumber?_of_isDigits (isDigits_repr k), readMagnitude?_repr hfits]
    rfl
  · have hfits : if true then 0 < k ∧ k ≤ 2 ^ 63 else k < 2 ^ 64 := by
      rw [if_pos rfl]
      omega
    rw [htext, readNumber?, readMagnitude?_repr hfits]
    rfl

theorem isDigit_or_eq_minus_of_mem_toString {c : Char} (h : c ∈ (toString n).toList) :
    c.isDigit = true ∨ c = '-' := by
  rcases toString_cases n with ⟨k, -, htext⟩ | ⟨k, -, -, htext⟩
  · rw [htext] at h
    exact .inl ((isDigits_iff.mp (isDigits_repr k)).2 c h)
  · rw [htext] at h
    rcases List.mem_cons.mp h with rfl | h
    · exact .inr rfl
    · exact .inl ((isDigits_iff.mp (isDigits_repr k)).2 c h)

theorem endsWord_of_isDigit {c : Char} (h : c.isDigit = true) : Lexer.endsWord c = false := by
  have hother : ∀ other : Char, other.isDigit = false → (c == other) = false := by
    intro other hnot
    rw [beq_eq_false_iff_ne]
    rintro rfl
    rw [h] at hnot
    cases hnot
  simp [Lexer.endsWord, Token.isSpace, Token.ofPunctuation?, hother]

theorem readsAs_integer (hlow : -2 ^ 63 ≤ n) (hhigh : n < 2 ^ 64) :
    ReadsAs (toString n).toList [.scalar (.integer n)] := by
  have hread := readNumber?_toString hlow hhigh
  have hsigns := @isDigit_or_eq_minus_of_mem_toString n
  cases htext : (toString n).toList with
  | nil =>
      rw [htext] at hread
      cases hread
  | cons c w =>
      rw [htext] at hread hsigns
      -- the constants start with letters
      have hfirst := hsigns List.mem_cons_self
      have hword : ∀ (letter : Char) (rest : Text), letter.isDigit = false → letter ≠ '-' →
          (c :: w == letter :: rest) = false := by
        intro letter rest hdigit hminus
        rw [beq_eq_false_iff_ne]
        rintro heq
        obtain ⟨rfl, -⟩ := List.cons.inj heq
        simp [hdigit, hminus] at hfirst
      refine readsAs_word (fun sign hsign => ?_) ?_
      · rcases hsigns hsign with hdigit | rfl
        · exact endsWord_of_isDigit hdigit
        · rfl
      · rw [Token.ofWord?, hword _ _ rfl (by decide), hword _ _ rfl (by decide),
          hword _ _ rfl (by decide), hread]
        rfl

end Integer

end BraceTemplate.Json
