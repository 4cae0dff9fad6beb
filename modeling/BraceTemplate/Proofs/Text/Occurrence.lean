import BraceTemplate.Proofs.Text.Cut
import Mathlib.Order.Bounds.Basic

/-!
# Places in a text

A place is a count of bytes in UTF-8 between two characters of a text.  A cut is
at the first place behind some bytes at which its separator stands.
-/

namespace BraceTemplate.Text

theorem utf8Size_cons (c : Char) (t : Text) : utf8Size (c :: t) = c.utf8Size + utf8Size t := rfl

theorem utf8Size_eq_utf8ByteSize (t : Text) : utf8Size t = (String.ofList t).utf8ByteSize := by
  induction t with
  | nil => rfl
  | cons c t ih =>
      have hsplit : String.ofList (c :: t) = String.singleton c ++ String.ofList t := by
        rw [String.singleton_eq_ofList, ← String.ofList_append]
        rfl
      rw [hsplit, String.utf8ByteSize_append, String.utf8ByteSize_singleton, ← ih, utf8Size_cons]

theorem isValid_utf8Size (before after : Text) :
    (⟨before.utf8Size⟩ : String.Pos.Raw).IsValid (String.ofList (before ++ after)) := by
  rw [String.Pos.Raw.isValid_ofList]
  exact ⟨before.length, by rw [List.take_left, utf8Size_eq_utf8ByteSize]⟩

theorem length_le_utf8Size (t : Text) : t.length ≤ utf8Size t := by
  induction t with
  | nil => exact Nat.le_refl 0
  | cons c t ih =>
      have hpos := c.utf8Size_pos
      rw [utf8Size_cons, List.length_cons]
      omega

theorem prefix_of_utf8Size_le {first second rest tail : Text} (h : first ++ rest = second ++ tail)
    (hsize : utf8Size first ≤ utf8Size second) : first <+: second := by
  have hfirst : first <+: second ++ tail := ⟨rest, h⟩
  rcases List.prefix_or_prefix_of_prefix hfirst (List.prefix_append second tail) with
    hprefix | ⟨more, rfl⟩
  · exact hprefix
  · have hlength := length_le_utf8Size more
    rw [utf8Size_append] at hsize
    obtain rfl : more = [] := List.eq_nil_of_length_eq_zero (by omega)
    simp

theorem eq_of_utf8Size_eq {first second rest tail : Text} (h : first ++ rest = second ++ tail)
    (hsize : utf8Size first = utf8Size second) : first = second := by
  obtain ⟨more, rfl⟩ := prefix_of_utf8Size_le h (Nat.le_of_eq hsize)
  have hlength := length_le_utf8Size more
  rw [utf8Size_append] at hsize
  obtain rfl : more = [] := List.eq_nil_of_length_eq_zero (by omega)
  simp

/-! ## Occurrences -/

/-- `part` stands in `t` behind `place` bytes. -/
def StandsAt (part t : Text) (place : Nat) : Prop :=
  ∃ before after, t = before ++ part ++ after ∧ before.utf8Size = place

def occurrences (part t : Text) (start : Nat) : Set Nat :=
  {place | part.StandsAt t place ∧ start ≤ place}

theorem mem_occurrences_append {part passed t : Text} {place : Nat} :
    place ∈ occurrences part (passed ++ t) passed.utf8Size ↔
      ∃ before after, t = before ++ part ++ after ∧ place = (passed ++ before).utf8Size := by
  constructor
  · rintro ⟨⟨before, after, htext, rfl⟩, hstart⟩
    rw [List.append_assoc] at htext
    obtain ⟨more, rfl⟩ := prefix_of_utf8Size_le htext hstart
    refine ⟨more, after, ?_, rfl⟩
    simpa using htext
  · rintro ⟨before, after, rfl, rfl⟩
    refine ⟨⟨passed ++ before, after, by simp, rfl⟩, ?_⟩
    rw [utf8Size_append]
    omega

theorem occurrences_inside (part passed : Text) (c : Char) (t : Text) :
    occurrences part (passed ++ c :: t) (passed.utf8Size + 1) =
      occurrences part (passed ++ c :: t) (passed ++ [c]).utf8Size := by
  have hpos := c.utf8Size_pos
  have hsize : (passed ++ [c]).utf8Size = passed.utf8Size + c.utf8Size := utf8Size_append _ _
  ext place
  constructor
  · rintro ⟨⟨before, after, htext, rfl⟩, hstart⟩
    refine ⟨⟨before, after, htext, rfl⟩, ?_⟩
    rw [List.append_assoc] at htext
    obtain ⟨more, rfl⟩ := prefix_of_utf8Size_le htext (by omega)
    cases more with
    | nil =>
        rw [List.append_nil] at hstart
        omega
    | cons d more =>
        simp only [List.append_assoc, List.append_cancel_left_eq, List.cons_append,
          List.cons.injEq] at htext
        rw [hsize, htext.1, utf8Size_append, utf8Size_cons]
        omega
  · rintro ⟨hstands, hstart⟩
    exact ⟨hstands, by omega⟩

section Cut

variable {first : Char} {separator t before after : Text} (passed : Text)

theorem prefix_of_cut? {start rest : Text}
    (h : cut? (first :: separator) t = some (before, after))
    (htext : t = start ++ first :: separator ++ rest) : before <+: start := by
  induction t generalizing before after start with
  | nil => simp at htext
  | cons c t ih =>
      rw [cut?_cons] at h
      split at h
      · simp only [Option.some.injEq, Prod.mk.injEq] at h
        rw [← h.1]
        exact List.nil_prefix
      · rename_i hmissed
        obtain ⟨⟨inner, tail⟩, hcut, heq⟩ := Option.map_eq_some_iff.mp h
        simp only [Prod.mk.injEq] at heq
        obtain ⟨rfl, -⟩ := heq
        cases start with
        | nil =>
            rw [htext, List.nil_append, List.isPrefixOf_iff_prefix] at hmissed
            exact absurd (List.prefix_append _ _) hmissed
        | cons d start =>
            obtain ⟨rfl, htail⟩ := List.cons.inj htext
            exact (List.prefix_cons_inj c).mpr (ih hcut htail)

theorem isLeast_occurrences_of_cut? (h : cut? (first :: separator) t = some (before, after)) :
    IsLeast (occurrences (first :: separator) (passed ++ t) passed.utf8Size)
      (passed ++ before).utf8Size := by
  constructor
  · exact mem_occurrences_append.mpr ⟨before, after, eq_append_of_cut? h, rfl⟩
  · intro place hplace
    obtain ⟨start, rest, htext, rfl⟩ := mem_occurrences_append.mp hplace
    obtain ⟨more, rfl⟩ := prefix_of_cut? h htext
    simp only [utf8Size_append]
    omega

theorem occurrences_eq_empty_of_cut?_none (h : cut? (first :: separator) t = none) :
    occurrences (first :: separator) (passed ++ t) passed.utf8Size = ∅ := by
  refine Set.eq_empty_of_forall_notMem fun place hplace => ?_
  obtain ⟨start, rest, htext, -⟩ := mem_occurrences_append.mp hplace
  exact cut?_eq_none_iff.mp h ⟨start, rest, htext.symm⟩

end Cut

end BraceTemplate.Text
