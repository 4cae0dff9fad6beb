import BraceTemplate.Proofs.Text.Replacement
import Mathlib.Data.List.DropRight

/-!
# Laws of trimming and of fields

A trimmed text is what is left when the blanks around a text are cut off, and
blanks around a text do not change it.  Fields are split off as the library
splits lists at single elements.
-/

namespace BraceTemplate.Text

/-! ## Characters of a text -/

def AllBlank (t : Text) : Prop := ∀ c ∈ t, isBlank c = true

instance (t : Text) : Decidable (AllBlank t) :=
  decidable_of_iff (t.all isBlank = true) List.all_eq_true

def Lacks (signs t : Text) : Prop := ∀ c ∈ signs, c ∉ t

instance (signs t : Text) : Decidable (Lacks signs t) :=
  decidable_of_iff ((signs.all fun c => !t.contains c) = true) (by simp [Lacks])

/-! ## Trimming -/

theorem trimEnd_eq_rdropWhile (t : Text) : trimEnd t = t.rdropWhile isBlank := rfl

theorem trimStart_append_cons {c : Char} (hblank : isBlank c = false)
    (before after : Text) :
    trimStart (before ++ c :: after) = trimStart before ++ c :: after := by
  unfold trimStart
  rw [List.dropWhile_append]
  split
  · rename_i hempty
    rw [List.isEmpty_iff.mp hempty, List.dropWhile_cons_of_neg (by simp [hblank])]
    rfl
  · rfl

section Padding

variable {before after : Text} (hbefore : AllBlank before) (hafter : AllBlank after)

include hbefore in
theorem trimStart_append (t : Text) : trimStart (before ++ t) = trimStart t :=
  List.dropWhile_append_of_pos hbefore

include hafter in
theorem trimEnd_append (t : Text) : trimEnd (t ++ after) = trimEnd t := by
  have hreverse : ∀ c ∈ after.reverse, isBlank c = true := by simpa [AllBlank] using hafter
  rw [trimEnd, List.reverse_append, List.dropWhile_append_of_pos hreverse, trimEnd]

include hbefore hafter

theorem trim_append_append (t : Text) : trim (before ++ t ++ after) = trim t := by
  rw [trim, List.append_assoc, trimStart_append hbefore, trimStart, List.dropWhile_append]
  split
  · rename_i hempty
    have hnil : trimStart t = [] := List.isEmpty_iff.mp hempty
    have hrest : after.dropWhile isBlank = [] := List.dropWhile_eq_nil_iff.mpr hafter
    rw [hrest, trim, hnil]
  · exact trimEnd_append hafter _

end Padding

def Pads (t written : Text) : Prop :=
  ∃ before after, written = before ++ t ++ after ∧ AllBlank before ∧ AllBlank after

theorem pads_trim (t : Text) : Pads (trim t) t := by
  refine ⟨t.takeWhile isBlank, (trimStart t).rtakeWhile isBlank, ?_, ?_, ?_⟩
  · rw [List.append_assoc, trim, trimEnd_eq_rdropWhile, List.rdropWhile_append_rtakeWhile,
      trimStart, List.takeWhile_append_dropWhile]
  · exact fun c hc => List.mem_takeWhile_imp hc
  · exact fun c hc => List.mem_rtakeWhile_imp hc

namespace Pads

variable {t written : Text}

theorem trim_eq (h : Pads t written) : trim written = trim t := by
  obtain ⟨before, after, rfl, hbefore, hafter⟩ := h
  exact trim_append_append hbefore hafter t

theorem append_left (h : Pads t written) {blanks : Text} (hblanks : AllBlank blanks) :
    Pads t (blanks ++ written) := by
  obtain ⟨before, after, rfl, hbefore, hafter⟩ := h
  refine ⟨blanks ++ before, after, by simp, ?_, hafter⟩
  exact List.forall_mem_append.mpr ⟨hblanks, hbefore⟩

theorem not_mem (h : Pads t written) {c : Char} (hblank : isBlank c = false) (hc : c ∉ t) :
    c ∉ written := by
  obtain ⟨before, after, rfl, hbefore, hafter⟩ := h
  have hapart : ∀ u : Text, AllBlank u → c ∉ u := by
    intro u hu hmem
    simp [hu c hmem] at hblank
  simp [hc, hapart before hbefore, hapart after hafter]

end Pads

theorem length_trim_le (t : Text) : (trim t).length ≤ t.length := by
  obtain ⟨before, after, ht, -, -⟩ := pads_trim t
  have hlength := congrArg List.length ht
  simp only [List.length_append] at hlength
  omega

theorem mem_trim {t : Text} {c : Char} (hblank : isBlank c = false) (h : c ∈ t) : c ∈ trim t := by
  by_contra hmem
  exact (pads_trim t).not_mem hblank hmem h

theorem head?_trim (t : Text) : (trim t).head? = (trimStart t).head? := by
  have hsplit : trim t ++ (trimStart t).rtakeWhile isBlank = trimStart t :=
    List.rdropWhile_append_rtakeWhile
  cases htrim : trim t with
  | cons c rest =>
      rw [← hsplit, htrim]
      rfl
  | nil =>
      cases hstart : trimStart t with
      | nil => rfl
      | cons c rest =>
          -- the first character would be blank at the end and not blank at the start
          rw [htrim, List.nil_append, hstart] at hsplit
          have hblank : isBlank c = true :=
            List.mem_rtakeWhile_imp (hsplit ▸ List.mem_cons_self)
          have hfirst := List.head?_dropWhile_not isBlank t
          rw [← trimStart, hstart] at hfirst
          simp [hblank] at hfirst

theorem not_blank_of_head?_trim {t : Text} {c : Char} (h : (trim t).head? = some c) :
    isBlank c = false := by
  -- what is cut off at the end leaves the first character where it is
  obtain ⟨blanks, hblanks⟩ : trim t <+: trimStart t := List.rdropWhile_prefix _ _
  have hstart : (t.dropWhile isBlank).head? = some c := by
    rw [← trimStart, ← hblanks, List.head?_append, h, Option.some_or]
  have hfirst := List.head?_dropWhile_not isBlank t
  rw [hstart] at hfirst
  exact hfirst

theorem not_blank_of_getLast?_trim {t : Text} {c : Char} (h : (trim t).getLast? = some c) :
    isBlank c = false := by
  have hne : trim t ≠ [] := by
    rintro hnil
    simp [hnil] at h
  have hlast := List.rdropWhile_last_not isBlank (trimStart t) hne
  rw [List.getLast?_eq_some_getLast hne, Option.some.injEq] at h
  rw [← h]
  exact (Bool.not_eq_true _).mp hlast

theorem trim_eq_self {t : Text} (hfirst : ∀ c, t.head? = some c → isBlank c = false)
    (hlast : ∀ c, t.getLast? = some c → isBlank c = false) : trim t = t := by
  have hstart : trimStart t = t := by
    cases t with
    | nil => rfl
    | cons c t => rw [trimStart, List.dropWhile_cons_of_neg (by simp [hfirst c rfl])]
  rw [trim, hstart, trimEnd_eq_rdropWhile, List.rdropWhile_eq_self_iff]
  intro hne
  simp [hlast _ (List.getLast?_eq_some_getLast hne)]

/-! ## Fields -/

theorem fields_eq_splitOnP (isSeparator : Char → Bool) (t : Text) :
    fields isSeparator t = t.splitOnP isSeparator := by
  induction t with
  | nil => simp
  | cons c t ih =>
      rw [List.splitOnP_cons_eq_if_modifyHead, ← ih, fields, List.foldr_cons]
      split
      · rfl
      · obtain ⟨piece, pieces, hfields⟩ := List.exists_cons_of_ne_nil (fields_ne_nil isSeparator t)
        rw [hfields, List.modifyHead_cons]
        rw [fields] at hfields
        rw [hfields]

theorem fields_append_cons {isSeparator : Char → Bool} {c : Char} (h : isSeparator c = true)
    (before after : Text) :
    fields isSeparator (before ++ c :: after) =
      fields isSeparator before ++ fields isSeparator after := by
  simp only [fields_eq_splitOnP, List.splitOnP_append_cons _ _ h]

theorem fields_of_not_mem {c : Char} {t : Text} (h : c ∉ t) : fields (· == c) t = [t] := by
  rw [fields_eq_splitOnP]
  exact List.splitOn_eq_singleton h

theorem join_eq_intercalate (separator : Text) (pieces : List Text) :
    join separator pieces = separator.intercalate pieces := by
  induction pieces with
  | nil => rfl
  | cons piece pieces ih =>
      cases pieces with
      | nil => simp [join]
      | cons next pieces =>
          rw [List.intercalate_cons_cons, ← ih]
          simp [join]

theorem fields_join {c : Char} {pieces : List Text} (hne : pieces ≠ [])
    (h : ∀ piece ∈ pieces, c ∉ piece) : fields (· == c) (join [c] pieces) = pieces := by
  rw [fields_eq_splitOnP, join_eq_intercalate]
  exact List.splitOn_intercalate c h hne

theorem headD_fields (isSeparator : Char → Bool) (t : Text) :
    (fields isSeparator t).headD [] = t.takeWhile fun c => !isSeparator c := by
  induction t with
  | nil => rfl
  | cons c t ih =>
      rw [fields_eq_splitOnP] at ih ⊢
      rw [List.splitOnP_cons_eq_if_modifyHead, List.takeWhile_cons, ← ih]
      cases hc : isSeparator c with
      | true => simp
      | false =>
          obtain ⟨piece, pieces, hpieces⟩ :=
            List.exists_cons_of_ne_nil (List.splitOnP_ne_nil isSeparator t)
          simp [hpieces]

theorem length_headD_fields_le (isSeparator : Char → Bool) (t : Text) :
    ((fields isSeparator t).headD []).length ≤ t.length := by
  rw [headD_fields]
  exact (List.takeWhile_sublist _).length_le

/-! ## Replacing -/

section Replacing

variable {first : Char} {old : Text}

theorem headD_fields_replace {c : Char} {new : Text} (hold : c ∉ first :: old) (hnew : c ∉ new)
    (t : Text) :
    (fields (· == c) (replace (first :: old) new t)).headD [] =
      replace (first :: old) new ((fields (· == c) t).headD []) := by
  rw [headD_fields, headD_fields]
  have hfield : ∀ d ∈ replace (first :: old) new (t.takeWhile fun d => !(d == c)),
      (!(d == c)) = true := by
    intro d hd
    rcases mem_of_mem_replace hd with hmem | hmem
    · have hne : d ≠ c := fun heq => hnew (heq ▸ hmem)
      simpa using hne
    · exact List.mem_takeWhile_imp (p := fun d => !(d == c)) hmem
  have hsplit := List.takeWhile_append_dropWhile (p := fun d => !(d == c)) (l := t)
  cases hrest : t.dropWhile fun d => !(d == c) with
  | nil =>
      rw [hrest, List.append_nil] at hsplit
      rw [hsplit] at hfield ⊢
      exact List.takeWhile_eq_self_iff.mpr hfield
  | cons d rest =>
      have hd := List.head?_dropWhile_not (fun d => !(d == c)) t
      rw [hrest] at hd hsplit
      obtain rfl : d = c := by simpa using hd
      conv_lhs => rw [← hsplit, replace_append_cons new hold]
      rw [List.takeWhile_append_of_pos hfield]
      simp

theorem trim_replace {sign : Char} (hold : ∀ c ∈ first :: old, isBlank c = false)
    (hsign : isBlank sign = false) (t : Text) :
    trim (replace (first :: old) [sign] t) = replace (first :: old) [sign] (trim t) := by
  obtain ⟨before, after, ht, hbefore, hafter⟩ := pads_trim t
  have hapart : ∀ c, isBlank c = true → c ∉ first :: old := by
    intro c hblank hmem
    simp [hold c hmem] at hblank
  have hends : replace (first :: old) [sign] (trim t ++ after) =
      replace (first :: old) [sign] (trim t) ++ after := by
    cases after with
    | nil => simp
    | cons c after =>
        obtain ⟨hc, hrest⟩ := List.forall_mem_cons.mp hafter
        have hkept := replace_append_of_not_mem [sign] (fun c hmem => hapart c (hrest c hmem)) []
        rw [List.append_nil, replace_nil, List.append_nil] at hkept
        rw [replace_append_cons [sign] (hapart c hc), hkept]
  conv_lhs => rw [ht, List.append_assoc,
    replace_append_of_not_mem [sign] fun c hmem => hapart c (hbefore c hmem), hends,
    ← List.append_assoc, trim_append_append hbefore hafter]
  apply trim_eq_self
  · intro c hc
    rcases head?_replace hc with rfl | hhead
    · exact hsign
    · exact not_blank_of_head?_trim hhead
  · intro c hc
    rcases getLast?_replace hc with rfl | hlast
    · exact hsign
    · exact not_blank_of_getLast?_trim hlast

end Replacing

end BraceTemplate.Text
