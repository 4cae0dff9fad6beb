import BraceTemplate.Proofs.Filter.Comparison
import BraceTemplate.Proofs.Filter.Textual
import BraceTemplate.Proofs.Number.Digits

/-!
# Bounds of repeated texts

Before a text is repeated, the size of a copy with its separator is multiplied by
the count.  The product bounds the size of the output; it is computed with
machine words, and one that is no word counts as too large.
-/

namespace BraceTemplate

open Binary64

/-! ## Sizes -/

theorem utf8ByteSize_intercalate_replicate (separator s : String) (count : Nat) :
    (separator.intercalate (List.replicate count s)).utf8ByteSize =
      count * s.utf8ByteSize + (count - 1) * separator.utf8ByteSize := by
  induction count with
  | zero => simp
  | succ count ih =>
      cases count with
      | zero => simp
      | succ count =>
          have hcopies : List.replicate (count + 2) s = s :: s :: List.replicate count s := rfl
          have hrest : List.replicate (count + 1) s = s :: List.replicate count s := rfl
          rw [hcopies, String.intercalate_cons_cons, ← hrest, String.utf8ByteSize_append,
            String.utf8ByteSize_append, ih]
          simp only [Nat.add_sub_cancel]
          ring

namespace Filter

theorem size_le_product (size separator count : Nat) :
    count * size + (count - 1) * separator ≤ count * max 1 (size + separator) := by
  calc count * size + (count - 1) * separator
      ≤ count * size + count * separator :=
        Nat.add_le_add_left (Nat.mul_le_mul_right _ (Nat.sub_le count 1)) _
    _ = count * (size + separator) := (Nat.mul_add _ _ _).symm
    _ ≤ count * max 1 (size + separator) := Nat.mul_le_mul_left _ (Nat.le_max_right _ _)

theorem any_checkedProduct? {bound : Nat} (hbound : bound < 2 ^ 64) (a b : Nat) :
    (checkedProduct? a b).any (· ≤ bound) = decide (a * b ≤ bound) := by
  unfold checkedProduct?
  split
  · rfl
  · rename_i hoverflow
    have hlarge : ¬ a * b ≤ bound := fun h => hoverflow (h.trans_lt hbound)
    rw [Option.any_none, decide_eq_false hlarge]

/-! ## Counts -/

/-- The count that is given: the integer part of a number, as far as a machine word can hold it. -/
inductive WritesCount : List String → Nat → Prop
  | none : WritesCount [] 2
  | number {written : String} {x : Float} (more : List String)
      (hread : readNumber? (Text.trim written.toList) = some x) (hsign : ¬ x < 0.0) :
      WritesCount (written :: more) (clampToWord (ofFloat x))

theorem countArgument_eq_ok_iff {filter written : String} {more : List String} {count : Nat} :
    countArgument filter (written :: more) 0 = .ok count ↔
      ∃ x, readNumber? (Text.trim written.toList) = some x ∧ ¬ x < 0.0 ∧
        saturatingIndex x = count := by
  have hfirst : (written :: more)[0]? = some written := rfl
  cases hread : readNumber? (Text.trim written.toList) with
  | none =>
      have hargument : numberArgument filter (written :: more) 0 =
          .error (.invalidArgument filter written "expected a number") := by
        rw [numberArgument, argument, hfirst]
        simp [bind, Except.bind, hread]
      rw [countArgument, hargument]
      simp [bind, Except.bind]
  | some x =>
      rw [countArgument, numberArgument_of_readNumber? hfirst hread]
      by_cases hsign : x < 0.0 <;> simp [bind, Except.bind, hsign]

theorem repeatCount_eq_ok_iff {arguments : List String} {count : Nat} :
    repeatCount arguments = .ok count ↔ WritesCount arguments count := by
  cases arguments with
  | nil =>
      constructor
      · intro h
        obtain rfl := Except.ok.inj h
        exact .none
      · rintro ⟨⟩
        rfl
  | cons written more =>
      change countArgument "repeat" (written :: more) 0 = .ok count ↔ _
      rw [countArgument_eq_ok_iff]
      constructor
      · rintro ⟨x, hread, hsign, rfl⟩
        rw [saturatingIndex_eq_clampToWord]
        exact .number more hread hsign
      · intro h
        cases h with
        | number _ hread hsign => exact ⟨_, hread, hsign, saturatingIndex_eq_clampToWord _⟩

/-! ## Repeated texts -/

variable {H : Type} [HostObject H]

theorem repeatText_of_count {value : Value H} (present : value.isUndefined = false)
    {arguments : List String} {count : Nat} (hcount : WritesCount arguments count) :
    repeatText value arguments =
      if count * max 1 (value.display.utf8ByteSize + (arguments.getD 1 "").utf8ByteSize) ≤
          maxRepeated then
        .ok (.string ((arguments.getD 1 "").intercalate (List.replicate count value.display)))
      else .error (.invalidArgument "repeat" (arguments.headD "")
        ("output would exceed " ++ toString maxRepeated ++ " bytes")) := by
  have hbound : maxRepeated < 2 ^ 64 := by decide
  rw [repeatText, textInput_of_present present, repeatCount_eq_ok_iff.mpr hcount]
  simp only [bind, Except.bind, any_checkedProduct? hbound, decide_eq_true_eq, Nat.max_comm _ 1,
    Nat.mul_comm _ count]
  rfl

/--
A text that was repeated is as long as its copies and the separators between them
and no longer than the bound.  What is present and has a count is refused exactly
if the count times the size of a copy with its separator exceeds the bound.
-/
theorem repeatText_bounded (value : Value H) (arguments : List String) :
    let s := value.display
    let separator := arguments.getD 1 ""
    (∀ result, repeatText value arguments = .ok result →
      ∃ count, WritesCount arguments count ∧
        ∃ output, result = .string output ∧
          output = separator.intercalate (List.replicate count s) ∧
          output.utf8ByteSize = count * s.utf8ByteSize + (count - 1) * separator.utf8ByteSize ∧
          output.utf8ByteSize ≤ maxRepeated) ∧
    (value.isUndefined = false → ∀ count, WritesCount arguments count →
      ((∃ argument reason,
          repeatText value arguments = .error (.invalidArgument "repeat" argument reason)) ↔
        maxRepeated < count * max 1 (s.utf8ByteSize + separator.utf8ByteSize)) ∧
      ((∃ result, repeatText value arguments = .ok result) ↔
        count * max 1 (s.utf8ByteSize + separator.utf8ByteSize) ≤ maxRepeated)) := by
  intro s separator
  constructor
  · intro result hresult
    have present : value.isUndefined = false := by
      by_contra habsent
      rw [repeatText, textInput, (Bool.not_eq_false _).mp habsent] at hresult
      cases hresult
    obtain ⟨count, hread⟩ : ∃ count, repeatCount arguments = .ok count := by
      cases hread : repeatCount arguments with
      | ok count => exact ⟨count, rfl⟩
      | error e =>
          rw [repeatText, textInput_of_present present, hread] at hresult
          cases hresult
    have hcount := repeatCount_eq_ok_iff.mp hread
    rw [repeatText_of_count present hcount] at hresult
    split at hresult
    · rename_i hle
      have hsize := utf8ByteSize_intercalate_replicate separator s count
      refine ⟨count, hcount, _, (Except.ok.inj hresult).symm, rfl, hsize, ?_⟩
      rw [hsize]
      exact (size_le_product _ _ _).trans hle
    · cases hresult
  · intro present count hcount
    rw [repeatText_of_count present hcount]
    by_cases hle : count * max 1 (s.utf8ByteSize + separator.utf8ByteSize) ≤ maxRepeated
    · rw [if_pos hle]
      simp [hle]
    · rw [if_neg hle]
      simp [Nat.lt_of_not_le hle]

theorem repeatText_bounded_counts :
    let value : Value Empty := .string "ab"
    let nothing : Value Empty := .string ""
    value.isUndefined = false ∧ WritesCount ["3.9", "-"] 3 ∧
      3 * max 1 ("ab".utf8ByteSize + "-".utf8ByteSize) ≤ maxRepeated ∧
      (∃ result, repeatText value ["3.9", "-"] = .ok result) ∧
      nothing.isUndefined = false ∧ WritesCount ["1e20"] maxWord ∧
      maxRepeated < maxWord * max 1 ("".utf8ByteSize + "".utf8ByteSize) ∧
      ∃ argument reason,
        repeatText nothing ["1e20"] = .error (.invalidArgument "repeat" argument reason) := by
  intro value nothing
  have hfraction : WritesCount ["3.9", "-"] 3 := repeatCount_eq_ok_iff.mp (by rfl)
  have hhuge : WritesCount ["1e20"] maxWord := repeatCount_eq_ok_iff.mp (by rfl)
  have hsmall : 3 * max 1 ("ab".utf8ByteSize + "-".utf8ByteSize) ≤ maxRepeated := by decide
  have hlarge : maxRepeated < maxWord * max 1 ("".utf8ByteSize + "".utf8ByteSize) := by decide
  obtain ⟨-, hvalue⟩ := repeatText_bounded value ["3.9", "-"]
  obtain ⟨-, hnothing⟩ := repeatText_bounded nothing ["1e20"]
  simp only [value, nothing, display_string] at hvalue hnothing
  exact ⟨rfl, hfraction, hsmall, (hvalue rfl 3 hfraction).2.mpr hsmall, rfl, hhuge, hlarge,
    (hnothing rfl maxWord hhuge).1.mpr hlarge⟩

end Filter

end BraceTemplate
