import BraceTemplate.Proofs.Text.Sign
import BraceTemplate.Proofs.Text.Trim
import BraceTemplate.Text.Markup

/-!
# Laws of markup

Removing the tags of a text in one pass leaves none, although the texts beside a
tag come together: a tag takes the first `<` before its end with it, so that no
`<` is left to start another.  Entities can be read back, as the character that
starts them is itself written as an entity.
-/

namespace BraceTemplate.Text

/-! ## Removing one tag after the other -/

theorem removeTagAt_cons_of_ne {c : Char} (hc : c ≠ '<') (piece : Text) :
    removeTagAt (c :: piece) = c :: removeTagAt piece := by
  have hbefore : (c :: piece).takeWhile (· != '<') = c :: piece.takeWhile (· != '<') :=
    List.takeWhile_cons_of_pos (by simpa using hc)
  rw [removeTagAt, removeTagAt, hbefore]
  by_cases hlong : (piece.takeWhile (· != '<')).length + 2 ≤ piece.length
  · rw [if_pos hlong, if_pos (by simp only [List.length_cons]; omega)]
  · rw [if_neg hlong, if_neg (by simp only [List.length_cons]; omega)]
    rfl

theorem removeTagAt_of_tag {inner : Text} (h : inner ≠ []) : removeTagAt ('<' :: inner) = [] := by
  have hlength := List.length_pos_iff.mpr h
  rw [removeTagAt, List.takeWhile_cons_of_neg (by simp), if_pos]
  simp only [List.length_nil, List.length_cons]
  omega

theorem removeTags_of_not_mem {t : Text} (h : '>' ∉ t) : removeTags t = t := by
  simp [removeTags, fields_of_not_mem h]

theorem removeTags_append_cons {piece : Text} (h : '>' ∉ piece) (rest : Text) :
    removeTags (piece ++ '>' :: rest) = removeTagAt piece ++ removeTags rest := by
  obtain ⟨field, fields', hfields⟩ :=
    List.exists_cons_of_ne_nil (fields_ne_nil (· == '>') rest)
  simp only [removeTags]
  rw [fields_append_cons (by rfl), fields_of_not_mem h, hfields]
  simp

theorem removeTags_cons_of_ne {c : Char} (hc : c ≠ '<') (t : Text) :
    removeTags (c :: t) = c :: removeTags t := by
  by_cases hsign : c = '>'
  · subst hsign
    have hempty : '>' ∉ ([] : Text) := by simp
    exact removeTags_append_cons hempty t
  · by_cases hend : '>' ∈ t
    · obtain ⟨piece, rest, rfl, hpiece⟩ := List.eq_append_cons_of_mem hend
      have hfirst : '>' ∉ c :: piece := by simp [Ne.symm hsign, hpiece]
      rw [← List.cons_append, removeTags_append_cons hfirst, removeTagAt_cons_of_ne hc,
        removeTags_append_cons hpiece, List.cons_append]
    · rw [removeTags_of_not_mem (by simp [Ne.symm hsign, hend]), removeTags_of_not_mem hend]

theorem removeTags_empty (t : Text) :
    removeTags ('<' :: '>' :: t) = '<' :: '>' :: removeTags t := by
  have hsign : '>' ∉ ['<'] := by decide
  exact removeTags_append_cons hsign t

theorem removeTags_tag {inner : Text} (hne : inner ≠ []) (hinner : '>' ∉ inner) (t : Text) :
    removeTags ('<' :: (inner ++ '>' :: t)) = removeTags t := by
  have hpiece : '>' ∉ '<' :: inner := by simp [hinner]
  rw [← List.cons_append, removeTags_append_cons hpiece, removeTagAt_of_tag hne, List.nil_append]

theorem tag_induction {motive : Text → Prop} (stop : ∀ t, '>' ∉ t → motive t)
    (other : ∀ c t, c ≠ '<' → motive t → motive (c :: t))
    (empty : ∀ t, motive t → motive ('<' :: '>' :: t))
    (tag : ∀ inner t, inner ≠ [] → '>' ∉ inner → motive t → motive ('<' :: (inner ++ '>' :: t)))
    (t : Text) : motive t := by
  induction hlength : t.length using Nat.strongRecOn generalizing t with
  | ind length ih =>
      subst hlength
      cases t with
      | nil => exact stop [] (by simp)
      | cons c t =>
          by_cases hc : c = '<'
          · subst hc
            -- the next `>` ends a tag unless it stands right here
            by_cases hend : '>' ∈ t
            · obtain ⟨inner, rest, rfl, hinner⟩ := List.eq_append_cons_of_mem hend
              have hrest : motive rest := ih rest.length (by simp; omega) rest rfl
              cases inner with
              | nil => exact empty rest hrest
              | cons d inner => exact tag (d :: inner) rest (by simp) hinner hrest
            · exact stop _ (by simp [hend])
          · exact other c t hc (ih t.length (by simp) t rfl)

/-! ## Texts without tags -/

/-- Each `<` is followed by `>` at once or not at all. -/
def TagFree (t : Text) : Prop :=
  BehindEach '<' (fun after => after.head? = some '>' ∨ '>' ∉ after) t

theorem tagFree_of_not_mem {t : Text} (h : '>' ∉ t) : TagFree t := by
  rintro before after rfl
  exact .inr fun hmem => h (by simp [hmem])

theorem tagFree_cons_iff_of_ne {c : Char} (hc : c ≠ '<') {t : Text} :
    TagFree (c :: t) ↔ TagFree t := by
  simp [TagFree, behindEach_cons_iff, hc]

theorem tagFree_empty_iff {t : Text} : TagFree ('<' :: '>' :: t) ↔ TagFree t := by
  simp [TagFree, behindEach_cons_iff]

theorem not_tagFree_tag {inner : Text} (hne : inner ≠ []) (hinner : '>' ∉ inner) (t : Text) :
    ¬ TagFree ('<' :: (inner ++ '>' :: t)) := by
  intro h
  obtain ⟨d, inner, rfl⟩ := List.exists_cons_of_ne_nil hne
  rcases (behindEach_cons_iff.mp h).1 rfl with hhead | hend
  · obtain rfl : d = '>' := by simpa using hhead
    exact hinner List.mem_cons_self
  · exact hend (by simp)

theorem tagFree_removeTags (t : Text) : TagFree (removeTags t) := by
  induction t using tag_induction with
  | stop t hend =>
      rw [removeTags_of_not_mem hend]
      exact tagFree_of_not_mem hend
  | other c t hc ih =>
      rw [removeTags_cons_of_ne hc]
      exact (tagFree_cons_iff_of_ne hc).mpr ih
  | empty t ih =>
      rw [removeTags_empty]
      exact tagFree_empty_iff.mpr ih
  | tag inner t hne hinner ih =>
      rw [removeTags_tag hne hinner]
      exact ih

theorem removeTags_of_tagFree {t : Text} (h : TagFree t) : removeTags t = t := by
  induction t using tag_induction with
  | stop t hend => exact removeTags_of_not_mem hend
  | other c t hc ih => rw [removeTags_cons_of_ne hc, ih ((tagFree_cons_iff_of_ne hc).mp h)]
  | empty t ih => rw [removeTags_empty, ih (tagFree_empty_iff.mp h)]
  | tag inner t hne hinner ih => exact absurd h (not_tagFree_tag hne hinner t)

theorem removeTags_sublist (t : Text) : (removeTags t).Sublist t := by
  induction t using tag_induction with
  | stop t hend => rw [removeTags_of_not_mem hend]
  | other c t hc ih =>
      rw [removeTags_cons_of_ne hc]
      exact ih.cons_cons c
  | empty t ih =>
      rw [removeTags_empty]
      exact (ih.cons_cons '>').cons_cons '<'
  | tag inner t hne hinner ih =>
      rw [removeTags_tag hne hinner]
      exact ih.trans (List.suffix_append ('<' :: (inner ++ ['>'])) t |>.sublist.trans (by simp))

/-! ## From left to right -/

def IsMarkup (tag : Text) : Prop :=
  ∃ slash inner, tag = '<' :: (slash ++ inner ++ ['>']) ∧ (slash = [] ∨ slash = ['/']) ∧
    inner ≠ [] ∧ '>' ∉ inner

/-- Tags are looked for from the left, each behind the end of the one before. -/
inductive RemovesTags : Text → Text → Prop where
  | none {t : Text} (h : ∀ tag, tag <:+: t → ¬ IsMarkup tag) : RemovesTags t t
  | next (before : Text) {tag after result : Text} (isMarkup : IsMarkup tag)
      (leftmost : ∀ start other rest, before ++ tag ++ after = start ++ other ++ rest →
        IsMarkup other → before.length ≤ start.length)
      (rest : RemovesTags after result) : RemovesTags (before ++ tag ++ after) (before ++ result)

theorem isMarkup_iff {tag : Text} :
    IsMarkup tag ↔ ∃ inner, tag = '<' :: (inner ++ ['>']) ∧ inner ≠ [] ∧ '>' ∉ inner := by
  constructor
  · rintro ⟨slash, inner, rfl, hslash, hne, hinner⟩
    refine ⟨slash ++ inner, rfl, by simp [hne], ?_⟩
    rcases hslash with rfl | rfl <;> simpa using hinner
  · rintro ⟨inner, rfl, hne, hinner⟩
    exact ⟨[], inner, rfl, .inl rfl, hne, hinner⟩

theorem not_isMarkup_at {c : Char} {t tag : Text} (h : tag <+: c :: t)
    (hstart : c ≠ '<' ∨ t.head? = some '>') : ¬ IsMarkup tag := by
  intro hmarkup
  obtain ⟨inner, rfl, hne, hinner⟩ := isMarkup_iff.mp hmarkup
  obtain ⟨d, inner, rfl⟩ := List.exists_cons_of_ne_nil hne
  obtain ⟨hc, rest, rfl⟩ := List.cons_prefix_cons.mp h
  rcases hstart with hother | hend
  · exact hother hc.symm
  · obtain rfl : d = '>' := by simpa using hend
    exact hinner List.mem_cons_self

theorem RemovesTags.cons {c : Char} {t result : Text}
    (hstart : c ≠ '<' ∨ t.head? = some '>') (h : RemovesTags t result) :
    RemovesTags (c :: t) (c :: result) := by
  cases h with
  | none h =>
      refine .none fun tag htag => ?_
      rcases List.infix_cons_iff.mp htag with hfirst | hlater
      · exact not_isMarkup_at hfirst hstart
      · exact h tag hlater
  | next before isMarkup leftmost rest =>
      refine .next (c :: before) isMarkup (fun start other more ht hother => ?_) rest
      cases start with
      | nil => exact absurd hother (not_isMarkup_at ⟨more, ht.symm⟩ hstart)
      | cons d start =>
          have hlater := leftmost start other more (List.cons.inj ht).2 hother
          simpa using hlater

theorem removesTags_removeTags (t : Text) : RemovesTags t (removeTags t) := by
  induction t using tag_induction with
  | stop t hend =>
      rw [removeTags_of_not_mem hend]
      refine .none fun tag htag hmarkup => ?_
      obtain ⟨inner, rfl, -⟩ := isMarkup_iff.mp hmarkup
      exact hend (htag.subset (by simp))
  | other c t hc ih =>
      rw [removeTags_cons_of_ne hc]
      exact ih.cons (.inl hc)
  | empty t ih =>
      rw [removeTags_empty]
      exact (ih.cons (.inl (by decide))).cons (.inr rfl)
  | tag inner t hne hinner ih =>
      have hmarkup := isMarkup_iff.mpr ⟨inner, rfl, hne, hinner⟩
      have hpass := RemovesTags.next [] hmarkup (by simp) ih
      rw [removeTags_tag hne hinner]
      simpa using hpass

/-! ## Entities -/

def entities : List (String × Char) :=
  [("&lt;", '<'), ("&gt;", '>'), ("&amp;", '&'), ("&quot;", '\x22'), ("&#39;", '\x27'),
    ("&#x2F;", '/')]

def entityAt? (t : Text) : Option (String × Char) :=
  entities.find? fun entry => entry.1.toList.isPrefixOf t

def decodeEntities : Text → Text
  | [] => []
  | c :: rest =>
      match entityAt? (c :: rest) with
      | some (written, meaning) => meaning :: decodeEntities (rest.drop (written.length - 1))
      | none => c :: decodeEntities rest
termination_by t => t.length
decreasing_by
  · simp only [List.length_drop, List.length_cons]
    omega
  · simp

def WritesEntities (t : Text) : Prop :=
  BehindEach '&' (fun after => ∃ entry ∈ entities, entry.1.toList <+: '&' :: after) t

theorem entity_cases (c : Char) :
    (∃ written, (written, c) ∈ entities ∧ entity c = written.toList) ∨
      (entity c = [c] ∧ c ∉ ['<', '>', '&', '\x22', '\x27', '/']) := by
  unfold entity
  split_ifs <;> simp_all [entities]

theorem entities_start : ∀ entry ∈ entities,
    entry.1.toList = '&' :: entry.1.toList.tail ∧ '&' ∉ entry.1.toList.tail := by
  decide

theorem entityAt?_append {entry : String × Char} (h : entry ∈ entities) (rest : Text) :
    entityAt? (entry.1.toList ++ rest) = some entry := by
  simp only [entities, List.mem_cons, List.not_mem_nil, or_false] at h
  rcases h with rfl | rfl | rfl | rfl | rfl | rfl <;> rfl

theorem entityAt?_cons_of_ne {c : Char} (hc : c ≠ '&') (rest : Text) :
    entityAt? (c :: rest) = none := by
  simp [entityAt?, entities, Ne.symm hc]

theorem decodeEntities_entity_append (c : Char) (rest : Text) :
    decodeEntities (entity c ++ rest) = c :: decodeEntities rest := by
  rcases entity_cases c with ⟨written, hmem, hentity⟩ | ⟨hentity, hplain⟩
  · have hstart : written.toList = '&' :: written.toList.tail := (entities_start _ hmem).1
    have hfound : entityAt? (written.toList ++ rest) = some (written, c) :=
      entityAt?_append hmem rest
    have hlength : written.length - 1 = written.toList.tail.length := by
      rw [List.length_tail, String.length_toList]
    rw [hstart, List.cons_append] at hfound
    rw [hentity, hstart, List.cons_append, decodeEntities, hfound]
    simp only [hlength, List.drop_left]
  · have hc : c ≠ '&' := by
      rintro rfl
      simp at hplain
    rw [hentity, List.singleton_append, decodeEntities, entityAt?_cons_of_ne hc]

theorem decodeEntities_encodeEntities (t : Text) : decodeEntities (encodeEntities t) = t := by
  induction t with
  | nil => simp [encodeEntities, decodeEntities]
  | cons c t ih =>
      rw [encodeEntities, List.flatMap_cons, decodeEntities_entity_append, ← encodeEntities, ih]

theorem lacks_encodeEntities (t : Text) :
    Lacks ['<', '>', '\x22', '\x27', '/'] (encodeEntities t) := by
  intro sign hsign hmem
  obtain ⟨c, -, hc⟩ := List.mem_flatMap.mp hmem
  have hentities : ∀ entry ∈ entities, Lacks ['<', '>', '\x22', '\x27', '/'] entry.1.toList := by
    decide
  rcases entity_cases c with ⟨written, hentry, hentity⟩ | ⟨hentity, hplain⟩
  · rw [hentity] at hc
    exact hentities _ hentry sign hsign hc
  · rw [hentity, List.mem_singleton] at hc
    subst hc
    simp only [List.mem_cons, List.not_mem_nil, or_false] at hsign hplain
    tauto

theorem writesEntities_encodeEntities (t : Text) : WritesEntities (encodeEntities t) := by
  induction t with
  | nil => exact behindEach_nil
  | cons c t ih =>
      rw [encodeEntities, List.flatMap_cons, ← encodeEntities]
      rcases entity_cases c with ⟨written, hmem, hentity⟩ | ⟨hentity, hplain⟩
      · obtain ⟨hstart, hrest⟩ : written.toList = '&' :: written.toList.tail ∧
          '&' ∉ written.toList.tail := entities_start _ hmem
        have hfirst : written.toList <+: '&' :: (written.toList.tail ++ encodeEntities t) := by
          rw [← List.cons_append, ← hstart]
          exact List.prefix_append _ _
        rw [hentity, hstart, List.cons_append]
        exact behindEach_cons_iff.mpr
          ⟨fun _ => ⟨_, hmem, hfirst⟩, (behindEach_append_iff hrest).mpr ih⟩
      · rw [hentity]
        refine (behindEach_append_iff ?_).mpr ih
        rw [List.mem_singleton]
        rintro rfl
        simp at hplain

end BraceTemplate.Text
