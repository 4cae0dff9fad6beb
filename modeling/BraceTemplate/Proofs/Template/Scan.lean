import BraceTemplate.Proofs.Text.Cut
import BraceTemplate.Template.Tag

/-!
# Scans of concatenations

A scan is sealed if no tag can start in the text after its last tag.  The scan
of a sealed text followed by another is the scan of the first followed by the
scan of the second; only the texts that meet at the seam become one.
-/

namespace BraceTemplate

namespace Tag

theorem eq_append_of_next? {t before after : Text} {tag : Tag}
    (h : next? t = some (before, tag, after)) : t = before ++ tag.text ++ after := by
  unfold next? at h
  split at h
  · simp at h
  · simp at h
  · rename_i first rest hopening
    split at h
    · simp at h
    · rename_i inner tail hclosing
      simp only [Option.some.injEq, Prod.mk.injEq] at h
      obtain ⟨rfl, rfl, rfl⟩ := h
      rw [Text.eq_append_of_cut? hopening, Text.eq_append_of_cut? hclosing]
      simp [text]

theorem next?_append_of_some {t before after : Text} {tag : Tag}
    (h : next? t = some (before, tag, after)) (more : Text) :
    next? (t ++ more) = some (before, tag, after ++ more) := by
  unfold next? at h
  split at h
  · simp at h
  · simp at h
  · rename_i first rest hopening
    split at h
    · simp at h
    · rename_i inner tail hclosing
      simp only [Option.some.injEq, Prod.mk.injEq] at h
      obtain ⟨rfl, rfl, rfl⟩ := h
      -- both cuts lie in `t`, so what follows cannot move them
      have hopening' := Text.cut?_append_of_some hopening more
      have hclosing' := Text.cut?_append_of_some hclosing more
      rw [List.cons_append] at hopening'
      simp only [next?, hopening', hclosing']

theorem next?_append_of_absent {t : Text} (habsent : ¬ opening <:+: t)
    (hlast : t.getLast? ≠ some '{') (more : Text) :
    next? (t ++ more) =
      (next? more).map fun found => (t ++ found.1, found.2.1, found.2.2) := by
  have hcut := Text.cut?_append_of_absent habsent hlast more
  unfold next?
  rw [show opening = ['{', '{'] from rfl, hcut]
  rcases Text.cut? ['{', '{'] more with _ | ⟨before, _ | ⟨first, rest⟩⟩
  · rfl
  · rfl
  · simp only [Option.map_some]
    cases Text.cut? closing rest <;> rfl

end Tag

namespace Scan

/-! ## Scanning without what has been scanned -/

private theorem scanOnto_eq (tagged : List (Text × Tag)) (t : Text) :
    scanOnto tagged t = ⟨tagged.reverse ++ (ofText t).tagged, (ofText t).rest⟩ := by
  induction hlength : t.length using Nat.strongRecOn generalizing t tagged with
  | ind length ih =>
      rw [ofText, scanOnto, scanOnto.eq_def [] t]
      split
      · simp
      · rename_i before tag after hnext
        have hshorter := Tag.length_of_next? hnext
        rw [ih after.length (by omega) ((before, tag) :: tagged) after rfl,
          ih after.length (by omega) [(before, tag)] after rfl]
        simp

theorem ofText_of_next?_none {t : Text} (h : Tag.next? t = none) : ofText t = ⟨[], t⟩ := by
  rw [ofText, scanOnto]
  split
  · rfl
  · rename_i hnext
    simp [h] at hnext

@[simp] theorem ofText_nil : ofText [] = ⟨[], []⟩ := ofText_of_next?_none rfl

theorem ofText_of_next?_some {t before after : Text} {tag : Tag}
    (h : Tag.next? t = some (before, tag, after)) :
    ofText t = ⟨(before, tag) :: (ofText after).tagged, (ofText after).rest⟩ := by
  rw [ofText, scanOnto]
  split
  · rename_i hnext
    simp [h] at hnext
  · rename_i hnext
    rw [h] at hnext
    cases hnext
    rw [scanOnto_eq]
    rfl

theorem next?_induction {motive : Text → Prop}
    (stop : ∀ t, Tag.next? t = none → motive t)
    (step : ∀ t before tag after, Tag.next? t = some (before, tag, after) →
      motive after → motive t) (t : Text) : motive t := by
  induction hlength : t.length using Nat.strongRecOn generalizing t with
  | ind length ih =>
      cases hnext : Tag.next? t with
      | none => exact stop t hnext
      | some found =>
          obtain ⟨before, tag, after⟩ := found
          have hshorter := Tag.length_of_next? hnext
          exact step t before tag after hnext (ih after.length (by omega) after rfl)

theorem text_ofText (t : Text) : (ofText t).text = t := by
  induction t using next?_induction with
  | stop t hnext =>
      rw [ofText_of_next?_none hnext]
      rfl
  | step t before tag after hnext ih =>
      rw [ofText_of_next?_some hnext, Tag.eq_append_of_next? hnext]
      simp only [text] at ih ⊢
      rw [List.flatMap_cons, List.append_assoc, ih]

/-! ## Joining scans -/

def prepend (t : Text) (scan : Scan) : Scan :=
  match scan.tagged with
  | [] => ⟨[], t ++ scan.rest⟩
  | (before, tag) :: more => ⟨(t ++ before, tag) :: more, scan.rest⟩

instance : Append Scan where
  append first second :=
    ⟨first.tagged ++ (second.prepend first.rest).tagged, (second.prepend first.rest).rest⟩

/-- No tag can start in the text after the last one, whatever follows it. -/
structure Sealed (scan : Scan) : Prop where
  noOpening : ¬ Tag.opening <:+: scan.rest
  noBrace : scan.rest.getLast? ≠ some '{'

instance (scan : Scan) : Decidable scan.Sealed :=
  decidable_of_iff
    ((Text.cut? Tag.opening scan.rest).isNone = true ∧ scan.rest.getLast? ≠ some '{') <| by
    rw [Option.isNone_iff_eq_none, show Tag.opening = ['{', '{'] from rfl, Text.cut?_eq_none_iff]
    exact ⟨fun h => ⟨h.1, h.2⟩, fun h => ⟨h.noOpening, h.noBrace⟩⟩

theorem append_def (first second : Scan) :
    first ++ second =
      ⟨first.tagged ++ (second.prepend first.rest).tagged,
        (second.prepend first.rest).rest⟩ := rfl

@[simp] theorem prepend_nil (scan : Scan) : scan.prepend [] = scan := by
  obtain ⟨tagged, rest⟩ := scan
  cases tagged <;> rfl

@[simp] theorem prepend_cons (t before : Text) (tag : Tag) (more : List (Text × Tag))
    (rest : Text) :
    prepend t ⟨(before, tag) :: more, rest⟩ = ⟨(t ++ before, tag) :: more, rest⟩ := rfl

@[simp] theorem tags_prepend (t : Text) (scan : Scan) : (scan.prepend t).tags = scan.tags := by
  obtain ⟨tagged, rest⟩ := scan
  cases tagged <;> rfl

@[simp] theorem tags_append (first second : Scan) :
    (first ++ second).tags = first.tags ++ second.tags := by
  rw [append_def, ← tags_prepend first.rest second]
  simp [tags]

theorem Sealed.of_rest_eq_nil {scan : Scan} (h : scan.rest = []) : scan.Sealed := by
  constructor
  · rw [h]
    decide
  · simp [h]

theorem ofText_append {first : Text} (h : (ofText first).Sealed) (second : Text) :
    ofText (first ++ second) = ofText first ++ ofText second := by
  induction first using next?_induction with
  | stop t hnext =>
      rw [ofText_of_next?_none hnext] at h
      have happend := Tag.next?_append_of_absent h.noOpening h.noBrace second
      rw [ofText_of_next?_none hnext, append_def, List.nil_append]
      cases hsecond : Tag.next? second with
      | none =>
          rw [hsecond, Option.map_none] at happend
          rw [ofText_of_next?_none happend, ofText_of_next?_none hsecond]
          rfl
      | some found =>
          rw [hsecond, Option.map_some] at happend
          rw [ofText_of_next?_some happend, ofText_of_next?_some hsecond]
          rfl
  | step t before tag after hnext ih =>
      rw [ofText_of_next?_some hnext] at h
      rw [ofText_of_next?_some (Tag.next?_append_of_some hnext second),
        ofText_of_next?_some hnext, ih ⟨h.noOpening, h.noBrace⟩]
      rfl

/-! ## Literal texts -/

section Literal

variable {t : Text} (noOpening : ¬ Tag.opening <:+: t) (noBrace : t.getLast? ≠ some '{')

include noOpening noBrace

theorem ofText_literal : ofText t = ⟨[], t⟩ := by
  have hnext := Tag.next?_append_of_absent noOpening noBrace []
  rw [List.append_nil] at hnext
  exact ofText_of_next?_none hnext

theorem ofText_literal_append (after : Text) :
    ofText (t ++ after) = (ofText after).prepend t := by
  have hscan := ofText_literal noOpening noBrace
  have hsealed : (ofText t).Sealed := by
    rw [hscan]
    exact ⟨noOpening, noBrace⟩
  rw [ofText_append hsealed, hscan]
  rfl

theorem Sealed.prepend {scan : Scan} (h : scan.Sealed) : (scan.prepend t).Sealed := by
  obtain ⟨tagged, rest⟩ := scan
  cases tagged with
  | cons entry more => exact ⟨h.noOpening, h.noBrace⟩
  | nil =>
      constructor
      · change ¬ ['{', '{'] <:+: t ++ rest
        have hrest := Text.cut?_eq_none_iff.mpr h.noOpening
        rw [← Text.cut?_eq_none_iff, Text.cut?_append_of_absent noOpening noBrace]
        simpa using hrest
      · change (t ++ rest).getLast? ≠ some '{'
        rw [List.getLast?_append]
        cases hlast : rest.getLast? with
        | none => exact noBrace
        | some c =>
            have hbrace := h.noBrace
            simp only [hlast] at hbrace
            exact hbrace

end Literal

end Scan

end BraceTemplate
