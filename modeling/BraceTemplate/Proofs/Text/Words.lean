import BraceTemplate.Proofs.Text.Trim
import BraceTemplate.Text.Spacing
import Mathlib.Data.List.Chain

/-!
# Words and the blanks between them

A text without blanks around it is made of words and of the blanks between
them.  Collapsing leaves the words as they are and narrows what is between them
to one blank each: the one that stood there alone, or a space for several.
-/

namespace BraceTemplate.Text

def IsWord (t : Text) : Prop := t ≠ [] ∧ ∀ c ∈ t, isBlank c = false

theorem words_append_blank {c : Char} (hblank : isBlank c = true) (before after : Text) :
    words (before ++ c :: after) = words before ++ words after := by
  rw [words, fields_append_cons hblank, List.filter_append]
  rfl

theorem words_of_allBlank {blanks : Text} (h : AllBlank blanks) : words blanks = [] := by
  induction blanks with
  | nil => rfl
  | cons c blanks ih =>
      obtain ⟨hc, hblanks⟩ := List.forall_mem_cons.mp h
      have hsplit := words_append_blank hc [] blanks
      rwa [ih hblanks] at hsplit

theorem words_append_blanks {gap : Text} (hgap : AllBlank gap) (hne : gap ≠ [])
    (before after : Text) : words (before ++ (gap ++ after)) = words before ++ words after := by
  induction gap generalizing before with
  | nil => exact absurd rfl hne
  | cons c gap ih =>
      obtain ⟨hc, hrest⟩ := List.forall_mem_cons.mp hgap
      rw [List.cons_append, words_append_blank hc]
      cases gap with
      | nil => rfl
      | cons d gap =>
          have hstart := ih hrest (by simp) []
          rw [List.nil_append] at hstart
          rw [hstart]
          rfl

theorem Pads.words_eq {t written : Text} (h : Pads t written) : words written = words t := by
  obtain ⟨before, after, rfl, hbefore, hafter⟩ := h
  have hend : words (t ++ after) = words t := by
    cases after with
    | nil => rw [List.append_nil]
    | cons c after =>
        have hsplit := words_append_blanks hafter (by simp) t []
        rwa [List.append_nil, show words [] = [] from rfl, List.append_nil] at hsplit
  cases before with
  | nil => exact hend
  | cons c before =>
      have hsplit := words_append_blanks hbefore (by simp) [] (t ++ after)
      rw [List.nil_append, ← List.append_assoc] at hsplit
      rw [hsplit, hend]
      rfl

/-! ## Narrow gaps -/

/-- What becomes of the blanks between two words: one stays as it is, and several are one space. -/
def narrow : Text → Char
  | [c] => c
  | _ => ' '

theorem isBlank_narrow {gap : Text} (h : AllBlank gap) : isBlank (narrow gap) = true := by
  unfold narrow
  split
  · exact h _ (by simp)
  · decide

inductive Narrows : Text → Text → Prop where
  | word {w : Text} (isWord : IsWord w) : Narrows w w
  | gap {w gap t result : Text} (isWord : IsWord w) (blank : AllBlank gap) (ne_nil : gap ≠ [])
      (rest : Narrows t result) : Narrows (w ++ (gap ++ t)) (w ++ narrow gap :: result)

/-- No blank at the ends and no two blanks side by side. -/
structure Packed (t : Text) : Prop where
  starts : ∀ c, t.head? = some c → isBlank c = false
  ends : ∀ c, t.getLast? = some c → isBlank c = false
  apart : t.IsChain fun c d => isBlank c = false ∨ isBlank d = false

theorem IsWord.packed {w : Text} (h : IsWord w) : Packed w where
  starts c hc := h.2 c (List.mem_of_head? hc)
  ends c hc := h.2 c (List.mem_of_getLast? hc)
  apart := List.isChain_iff_getElem.mpr fun _ _ => .inl (h.2 _ (List.getElem_mem _))

theorem Packed.append_cons {w t : Text} (hw : Packed w) (hne : w ≠ []) (ht : Packed t)
    (htne : t ≠ []) (blank : Char) : Packed (w ++ blank :: t) where
  starts c hc := by
    rw [List.head?_append_of_ne_nil _ hne] at hc
    exact hw.starts c hc
  ends c hc := by
    rw [List.getLast?_append_of_ne_nil _ (by simp), List.getLast?_cons_of_ne_nil htne] at hc
    exact ht.ends c hc
  apart := by
    refine hw.apart.append (List.isChain_cons.mpr ⟨?_, ht.apart⟩) ?_
    · exact fun d hd => .inr (ht.starts d hd)
    · exact fun c hc _ _ => .inl (hw.ends c hc)

theorem collapseStep_of_not_blank {c : Char} (h : isBlank c = false) (rest : Text) :
    collapseStep c rest = c :: rest := by
  cases rest <;> simp [collapseStep, h]

theorem collapse_append_of_not_blank {w : Text} (h : ∀ c ∈ w, isBlank c = false) (t : Text) :
    collapse (w ++ t) = w ++ collapse t := by
  induction w with
  | nil => rfl
  | cons c w ih =>
      obtain ⟨hc, hw⟩ := List.forall_mem_cons.mp h
      calc collapse (c :: w ++ t) = collapseStep c (collapse (w ++ t)) := rfl
        _ = c :: w ++ collapse t := by rw [ih hw, collapseStep_of_not_blank hc, List.cons_append]

theorem collapse_gap_append {gap t : Text} (hgap : AllBlank gap) (hne : gap ≠ [])
    (ht : ∀ c, (collapse t).head? = some c → isBlank c = false) :
    collapse (gap ++ t) = narrow gap :: collapse t := by
  induction gap with
  | nil => exact absurd rfl hne
  | cons c gap ih =>
      obtain ⟨hc, hrest⟩ := List.forall_mem_cons.mp hgap
      have hstep : collapse (c :: gap ++ t) = collapseStep c (collapse (gap ++ t)) := rfl
      cases gap with
      | nil =>
          rw [hstep, List.nil_append]
          cases hcollapsed : collapse t with
          | nil => rfl
          | cons d rest => simp [collapseStep, narrow, ht d (by rw [hcollapsed]; rfl)]
      | cons d gap =>
          have hblank : isBlank (narrow (d :: gap)) = true := isBlank_narrow hrest
          rw [hstep, ih hrest (by simp), collapseStep, if_pos (by simp [hc, hblank])]
          rfl

namespace Narrows

variable {t result : Text} (h : Narrows t result)

include h

theorem ne_nil : result ≠ [] := by
  cases h with
  | word isWord => exact isWord.1
  | gap => simp

theorem packed : Packed result := by
  induction h with
  | word isWord => exact isWord.packed
  | gap isWord _ _ rest ih => exact isWord.packed.append_cons isWord.1 ih rest.ne_nil _

theorem collapse_eq : collapse t = result := by
  induction h with
  | @word w isWord =>
      have hword := collapse_append_of_not_blank isWord.2 []
      rwa [List.append_nil, show collapse [] = [] from rfl, List.append_nil] at hword
  | gap isWord blank ne_nil rest ih =>
      rw [collapse_append_of_not_blank isWord.2, collapse_gap_append blank ne_nil, ih]
      rw [ih]
      exact rest.packed.starts

theorem words_eq : words result = words t := by
  induction h with
  | word => rfl
  | @gap w gap t result isWord blank ne_nil rest ih =>
      have hone : AllBlank [narrow gap] := by simpa [AllBlank] using isBlank_narrow blank
      have hsplit := words_append_blanks hone (by simp) w result
      rw [words_append_blanks blank ne_nil, ← ih, ← hsplit]
      rfl

end Narrows

theorem exists_first_word {t : Text} (hne : t ≠ [])
    (hstarts : ∀ c, t.head? = some c → isBlank c = false) :
    ∃ w gap after, t = w ++ (gap ++ after) ∧ IsWord w ∧ AllBlank gap ∧
      (∀ c, after.head? = some c → isBlank c = false) ∧ (gap = [] → after = []) := by
  let behind := t.dropWhile fun c => !isBlank c
  refine ⟨t.takeWhile fun c => !isBlank c, behind.takeWhile isBlank, behind.dropWhile isBlank,
    ?_, ⟨?_, ?_⟩, fun c hc => List.mem_takeWhile_imp hc, ?_, fun hgap => ?_⟩
  · rw [List.takeWhile_append_dropWhile, List.takeWhile_append_dropWhile]
  · obtain ⟨c, rest, rfl⟩ := List.exists_cons_of_ne_nil hne
    simp [hstarts c rfl]
  · intro c hc
    simpa using List.mem_takeWhile_imp hc
  · intro c hc
    have hfirst := List.head?_dropWhile_not isBlank behind
    rwa [hc] at hfirst
  · -- what follows the word starts with a blank
    have hfirst := List.head?_dropWhile_not (fun c => !isBlank c) t
    cases hbehind : behind with
    | nil => rfl
    | cons c rest =>
        rw [show t.dropWhile (fun c => !isBlank c) = c :: rest from hbehind] at hfirst
        simp_all

theorem exists_narrows {t : Text} (hne : t ≠ [])
    (hstarts : ∀ c, t.head? = some c → isBlank c = false)
    (hends : ∀ c, t.getLast? = some c → isBlank c = false) : ∃ result, Narrows t result := by
  induction hlength : t.length using Nat.strongRecOn generalizing t with
  | ind length ih =>
      obtain ⟨w, gap, after, rfl, hw, hgap, hafter, hnil⟩ := exists_first_word hne hstarts
      by_cases hempty : after = []
      · subst hempty
        have hgapNil : gap = [] := by
          by_contra hgapNe
          rw [List.append_nil, List.getLast?_append_of_ne_nil _ hgapNe,
            List.getLast?_eq_some_getLast hgapNe] at hends
          have hblank := hgap _ (List.getLast_mem hgapNe)
          rw [hends _ rfl] at hblank
          cases hblank
        subst hgapNil
        exact ⟨w, by simpa using Narrows.word hw⟩
      · have hshorter : after.length < length := by
          have := List.length_pos_of_ne_nil hw.1
          simp only [List.length_append] at hlength
          omega
        rw [← List.append_assoc, List.getLast?_append_of_ne_nil _ hempty] at hends
        obtain ⟨result, hresult⟩ := ih after.length hshorter hempty hafter hends rfl
        exact ⟨_, .gap hw hgap (fun hgapNil => hempty (hnil hgapNil)) hresult⟩

/-! ## Trimming and collapsing -/

theorem collapse_trim_cases (t : Text) :
    (AllBlank t ∧ collapse (trim t) = []) ∨
      ∃ core, Pads core t ∧ Narrows core (collapse (trim t)) := by
  by_cases hempty : trim t = []
  · refine .inl ⟨?_, by rw [hempty]; rfl⟩
    intro c hc
    by_contra hblank
    have hmem := mem_trim ((Bool.not_eq_true _).mp hblank) hc
    rw [hempty] at hmem
    cases hmem
  · obtain ⟨result, hresult⟩ := exists_narrows hempty (fun _ => not_blank_of_head?_trim)
      fun _ => not_blank_of_getLast?_trim
    exact .inr ⟨trim t, pads_trim t, by rwa [hresult.collapse_eq]⟩

theorem packed_nil : Packed [] := ⟨by simp, by simp, .nil⟩

theorem packed_collapse_trim (t : Text) : Packed (collapse (trim t)) := by
  rcases collapse_trim_cases t with ⟨-, hnil⟩ | ⟨core, -, hnarrows⟩
  · rw [hnil]
    exact packed_nil
  · exact hnarrows.packed

theorem words_collapse_trim (t : Text) : words (collapse (trim t)) = words t := by
  rcases collapse_trim_cases t with ⟨hblank, hnil⟩ | ⟨core, hpads, hnarrows⟩
  · rw [hnil, words_of_allBlank hblank]
    rfl
  · rw [hnarrows.words_eq, hpads.words_eq]

theorem Packed.collapse_trim {t : Text} (h : Packed t) : collapse (trim t) = t := by
  rw [trim_eq_self h.starts h.ends]
  obtain ⟨-, -, hapart⟩ := h
  induction t with
  | nil => rfl
  | cons c t ih =>
      obtain ⟨hnext, hrest⟩ := List.isChain_cons.mp hapart
      calc collapse (c :: t) = collapseStep c (collapse t) := rfl
        _ = collapseStep c t := by rw [ih hrest]
        _ = c :: t := by
          cases t with
          | nil => rfl
          | cons d t => rcases hnext d rfl with hc | hd <;> simp [collapseStep, *]

end BraceTemplate.Text
