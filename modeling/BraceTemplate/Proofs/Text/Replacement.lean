import BraceTemplate.Proofs.Text.Cut

/-!
# Laws of splitting and replacing

A text is split at its first cut and then behind it; replacing follows.
-/

namespace BraceTemplate.Text

theorem cut?_induction (first : Char) (separator : Text) {motive : Text → Prop}
    (stop : ∀ t, cut? (first :: separator) t = none → motive t)
    (step : ∀ t before after, cut? (first :: separator) t = some (before, after) →
      motive after → motive t) (t : Text) : motive t := by
  induction hlength : t.length using Nat.strongRecOn generalizing t with
  | ind length ih =>
      cases hcut : cut? (first :: separator) t with
      | none => exact stop t hcut
      | some parts =>
          have hshorter := length_of_cut? hcut
          exact step t parts.1 parts.2 hcut (ih parts.2.length (by omega) parts.2 rfl)

private theorem splitOnto_eq (first : Char) (separator : Text) (pieces : List Text)
    (t : Text) :
    splitOnto first separator pieces t =
      pieces.reverse ++ split (first :: separator) t := by
  induction t using cut?_induction first separator generalizing pieces with
  | stop t hcut =>
      rw [split, splitOnto, splitOnto.eq_def first separator []]
      split
      · simp
      · simp_all
  | step t before after hcut ih =>
      rw [split, splitOnto, splitOnto.eq_def first separator []]
      split
      · simp_all
      · rename_i hfound
        rw [hcut] at hfound
        cases hfound
        rw [ih, ih]
        simp

theorem split_of_cut?_none {first : Char} {separator t : Text}
    (h : cut? (first :: separator) t = none) : split (first :: separator) t = [t] := by
  rw [split, splitOnto]
  split
  · rfl
  · simp_all

theorem split_of_cut?_some {first : Char} {separator t before after : Text}
    (h : cut? (first :: separator) t = some (before, after)) :
    split (first :: separator) t = before :: split (first :: separator) after := by
  rw [split, splitOnto]
  split
  · simp_all
  · rename_i hfound
    rw [h] at hfound
    cases hfound
    rw [splitOnto_eq]
    rfl

theorem replace_of_cut?_none {first : Char} {old t : Text}
    (h : cut? (first :: old) t = none) (new : Text) : replace (first :: old) new t = t := by
  rw [replace, split_of_cut?_none h]
  simp [join]

theorem replace_of_cut?_some {first : Char} {old t before after : Text}
    (h : cut? (first :: old) t = some (before, after)) (new : Text) :
    replace (first :: old) new t = before ++ new ++ replace (first :: old) new after := by
  have hpieces : ∃ piece pieces, split (first :: old) after = piece :: pieces := by
    cases hcut : cut? (first :: old) after with
    | none => exact ⟨_, _, split_of_cut?_none hcut⟩
    | some parts => exact ⟨_, _, split_of_cut?_some hcut⟩
  obtain ⟨piece, pieces, hsplit⟩ := hpieces
  rw [replace, replace, split_of_cut?_some h, hsplit]
  simp [join]

theorem length_replace_le {first : Char} {old new : Text}
    (h : new.length ≤ (first :: old).length) (t : Text) :
    (replace (first :: old) new t).length ≤ t.length := by
  induction t using cut?_induction first old with
  | stop t hcut => simp [replace_of_cut?_none hcut]
  | step t before after hcut ih =>
      rw [replace_of_cut?_some hcut, eq_append_of_cut? hcut]
      simp only [List.length_append]
      omega

/-! ## Splitting what was joined -/

theorem split_join {first : Char} {separator : Text} {pieces : List Text} (hne : pieces ≠ [])
    (h : ∀ piece ∈ pieces, first ∉ piece) :
    split (first :: separator) (join (first :: separator) pieces) = pieces := by
  induction pieces with
  | nil => exact absurd rfl hne
  | cons piece pieces ih =>
      obtain ⟨hpiece, hpieces⟩ := List.forall_mem_cons.mp h
      cases pieces with
      | nil =>
          have hcut : cut? (first :: separator) piece = none := by
            rw [← List.append_nil piece, cut?_append_of_not_mem hpiece]
            rfl
          simpa [join] using split_of_cut?_none hcut
      | cons next pieces =>
          have hjoin : join (first :: separator) (piece :: next :: pieces) =
              piece ++ (first :: separator ++ join (first :: separator) (next :: pieces)) := by
            simp [join]
          have hcut : cut? (first :: separator)
              (join (first :: separator) (piece :: next :: pieces)) =
              some (piece, join (first :: separator) (next :: pieces)) := by
            rw [hjoin, cut?_append_of_not_mem hpiece, List.cons_append, cut?_cons]
            simp
          rw [split_of_cut?_some hcut, ih (by simp) hpieces]

theorem join_split (separator t : Text) : join separator (split separator t) = t := by
  cases separator with
  | nil =>
      have hsingles : (t.map fun c => [c]).flatten = t := by
        rw [← List.flatMap_def, List.flatMap_singleton']
      simpa [split, join] using hsingles
  | cons first separator =>
      change replace (first :: separator) (first :: separator) t = t
      induction t using cut?_induction first separator with
      | stop t hcut => exact replace_of_cut?_none hcut _
      | step t before after hcut ih => rw [replace_of_cut?_some hcut, ih, ← eq_append_of_cut? hcut]

/-! ## Replacing on the sides of a character -/

section Sides

variable {first : Char} {old : Text} (new : Text)

theorem replace_nil : replace (first :: old) new [] = [] :=
  replace_of_cut?_none rfl new

theorem replace_append_cons {c : Char} (hc : c ∉ first :: old) (t more : Text) :
    replace (first :: old) new (t ++ c :: more) =
      replace (first :: old) new t ++ c :: replace (first :: old) new more := by
  induction t using cut?_induction first old with
  | stop t hcut =>
      have happend := cut?_append_cons_of_none hc hcut more
      rw [replace_of_cut?_none hcut]
      cases hmore : cut? (first :: old) more with
      | none =>
          rw [hmore, Option.map_none] at happend
          rw [replace_of_cut?_none happend, replace_of_cut?_none hmore]
      | some parts =>
          rw [hmore, Option.map_some] at happend
          rw [replace_of_cut?_some happend, replace_of_cut?_some hmore]
          simp
  | step t before after hcut ih =>
      rw [replace_of_cut?_some (cut?_append_of_some hcut (c :: more)), replace_of_cut?_some hcut,
        ih]
      simp

theorem replace_append_of_not_mem {before : Text} (h : ∀ c ∈ before, c ∉ first :: old)
    (t : Text) :
    replace (first :: old) new (before ++ t) = before ++ replace (first :: old) new t := by
  induction before with
  | nil => rfl
  | cons c before ih =>
      obtain ⟨hc, hbefore⟩ := List.forall_mem_cons.mp h
      have happend := replace_append_cons new hc [] (before ++ t)
      rw [replace_nil] at happend
      rw [List.cons_append, List.cons_append, ← ih hbefore]
      exact happend

end Sides

/-! ## The characters of a replacement -/

section Characters

variable {first : Char} {old t : Text} {c : Char}

theorem mem_of_mem_replace {new : Text} (h : c ∈ replace (first :: old) new t) :
    c ∈ new ∨ c ∈ t := by
  induction t using cut?_induction first old with
  | stop t hcut =>
      rw [replace_of_cut?_none hcut] at h
      exact .inr h
  | step t before after hcut ih =>
      rw [replace_of_cut?_some hcut, List.mem_append, List.mem_append] at h
      rw [eq_append_of_cut? hcut]
      rcases h with (hbefore | hnew) | hafter
      · exact .inr (by simp [hbefore])
      · exact .inl hnew
      · exact (ih hafter).imp_right fun hmem => by simp [hmem]

theorem head?_replace {sign : Char} (h : (replace (first :: old) [sign] t).head? = some c) :
    c = sign ∨ t.head? = some c := by
  cases hcut : cut? (first :: old) t with
  | none =>
      rw [replace_of_cut?_none hcut] at h
      exact .inr h
  | some parts =>
      rw [replace_of_cut?_some hcut] at h
      rw [eq_append_of_cut? hcut]
      cases hbefore : parts.1 with
      | nil => exact .inl (by simpa [hbefore, eq_comm] using h)
      | cons d before => exact .inr (by simpa [hbefore] using h)

theorem getLast?_replace {sign : Char} (h : (replace (first :: old) [sign] t).getLast? = some c) :
    c = sign ∨ t.getLast? = some c := by
  induction t using cut?_induction first old with
  | stop t hcut =>
      rw [replace_of_cut?_none hcut] at h
      exact .inr h
  | step t before after hcut ih =>
      rw [replace_of_cut?_some hcut, List.getLast?_append] at h
      cases hlast : (replace (first :: old) [sign] after).getLast? with
      | none => exact .inl (by simpa [hlast, eq_comm] using h)
      | some d =>
          rw [hlast, Option.some_or, Option.some.injEq] at h
          subst h
          refine (ih hlast).imp_right fun hafter => ?_
          rw [eq_append_of_cut? hcut, List.getLast?_append, hafter, Option.some_or]

end Characters

end BraceTemplate.Text
