import BraceTemplate.Text.Blank

/-!
# What stands behind a sign

A law about every occurrence of a sign in a text, read off one character at a
time and kept by characters that are not the sign.
-/

namespace BraceTemplate.Text

def BehindEach (sign : Char) (p : Text → Prop) (t : Text) : Prop :=
  ∀ before after, t = before ++ sign :: after → p after

variable {sign : Char} {p : Text → Prop}

theorem behindEach_nil : BehindEach sign p [] := by
  intro before after ht
  simp at ht

theorem behindEach_cons_iff {c : Char} {t : Text} :
    BehindEach sign p (c :: t) ↔ (c = sign → p t) ∧ BehindEach sign p t := by
  constructor
  · intro h
    refine ⟨?_, fun before after ht => h (c :: before) after (by rw [ht]; rfl)⟩
    rintro rfl
    exact h [] t rfl
  · rintro ⟨hfirst, hrest⟩ before after ht
    cases before with
    | nil =>
        obtain ⟨rfl, rfl⟩ := List.cons.inj ht
        exact hfirst rfl
    | cons d before => exact hrest before after (List.cons.inj ht).2

theorem behindEach_append_iff {before t : Text} (h : sign ∉ before) :
    BehindEach sign p (before ++ t) ↔ BehindEach sign p t := by
  induction before with
  | nil => rfl
  | cons c before ih =>
      obtain ⟨hc, hbefore⟩ := not_or.mp (mt List.mem_cons.mpr h)
      rw [List.cons_append, behindEach_cons_iff, ih hbefore]
      simp [Ne.symm hc]

end BraceTemplate.Text
