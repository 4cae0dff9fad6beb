import BraceTemplate.Text.Split

/-!
# Laws of cutting

`cut?` without its accumulator, and how it acts on a concatenation.  A cut that
is found in the first text is the same in the whole.  Where the first text
neither holds the separator nor ends in a part of it, the cut is that of the
second text.
-/

namespace BraceTemplate.Text

private theorem cutFrom_eq_map (separator seen t : Text) :
    cutFrom separator seen t =
      (cut? separator t).map fun parts => (seen.reverse ++ parts.1, parts.2) := by
  induction t generalizing seen with
  | nil => cases separator <;> simp [cut?, cutFrom]
  | cons c rest ih =>
      simp only [cut?, cutFrom]
      split
      · simp
      · rw [ih (c :: seen), ih [c]]
        cases cut? separator rest <;> simp

theorem cut?_cons (separator : Text) (c : Char) (rest : Text) :
    cut? separator (c :: rest) =
      if separator.isPrefixOf (c :: rest) then
        some ([], (c :: rest).drop separator.length)
      else (cut? separator rest).map fun parts => (c :: parts.1, parts.2) := by
  rw [cut?, cutFrom, cutFrom_eq_map]
  rfl

theorem eq_append_of_cut? {separator t before after : Text}
    (h : cut? separator t = some (before, after)) : t = before ++ separator ++ after := by
  induction t generalizing before with
  | nil =>
      cases separator with
      | nil => simpa [cut?, cutFrom] using h
      | cons first separator => simp [cut?, cutFrom] at h
  | cons c rest ih =>
      rw [cut?_cons] at h
      split at h
      · rename_i hprefix
        obtain ⟨tail, htail⟩ := List.isPrefixOf_iff_prefix.mp hprefix
        rw [← htail] at h ⊢
        simp only [List.drop_left', Option.some.injEq, Prod.mk.injEq] at h
        obtain ⟨rfl, rfl⟩ := h
        rfl
      · obtain ⟨⟨inner, tail⟩, hcut, heq⟩ := Option.map_eq_some_iff.mp h
        simp only [Prod.mk.injEq] at heq
        obtain ⟨rfl, rfl⟩ := heq
        rw [ih hcut]
        rfl

theorem cut?_eq_none_iff {first : Char} {separator t : Text} :
    cut? (first :: separator) t = none ↔ ¬ first :: separator <:+: t := by
  induction t with
  | nil => simp [cut?, cutFrom]
  | cons c rest ih =>
      rw [cut?_cons, List.infix_cons_iff, ← List.isPrefixOf_iff_prefix, not_or, ← ih]
      split <;> simp_all

theorem cut?_append_of_some {separator t before after : Text}
    (h : cut? separator t = some (before, after)) (more : Text) :
    cut? separator (t ++ more) = some (before, after ++ more) := by
  have hlength : separator.length ≤ t.length := by
    rw [eq_append_of_cut? h]
    simp
    omega
  induction t generalizing before with
  | nil =>
      obtain rfl : separator = [] := List.eq_nil_of_length_eq_zero (by simpa using hlength)
      simp only [cut?, cutFrom, List.isEmpty_nil, if_true, Option.some.injEq,
        Prod.mk.injEq, List.reverse_nil] at h
      obtain ⟨rfl, rfl⟩ := h
      cases more <;> simp [cut?, cutFrom]
  | cons c rest ih =>
      have hprefix : separator.isPrefixOf (c :: (rest ++ more)) =
          separator.isPrefixOf (c :: rest) := by
        rw [Bool.eq_iff_iff, List.isPrefixOf_iff_prefix, List.isPrefixOf_iff_prefix]
        constructor
        · intro hlong
          exact List.prefix_of_prefix_length_le hlong
            (List.prefix_append (c :: rest) more) hlength
        · intro hshort
          exact hshort.trans (List.prefix_append (c :: rest) more)
      rw [cut?_cons] at h
      rw [List.cons_append, cut?_cons, hprefix]
      split at h
      · rename_i hfound
        simp only [Option.some.injEq, Prod.mk.injEq] at h
        obtain ⟨rfl, rfl⟩ := h
        rw [if_pos hfound, ← List.cons_append, List.drop_append_of_le_length hlength]
      · rename_i hmissed
        obtain ⟨⟨inner, tail⟩, hcut, heq⟩ := Option.map_eq_some_iff.mp h
        simp only [Prod.mk.injEq] at heq
        obtain ⟨rfl, rfl⟩ := heq
        have hrest : separator.length ≤ rest.length := by
          rw [eq_append_of_cut? hcut]
          simp
          omega
        rw [if_neg hmissed, ih hcut hrest]
        rfl

theorem not_infix_of_cut? {first : Char} {separator t before after : Text}
    (h : cut? (first :: separator) t = some (before, after)) :
    ¬ first :: separator <:+: before := by
  rw [← cut?_eq_none_iff]
  cases hearlier : cut? (first :: separator) before with
  | none => rfl
  | some parts =>
      -- a cut in `before` would be the cut of the whole, with more behind it
      obtain ⟨start, rest⟩ := parts
      have hwhole := cut?_append_of_some hearlier (first :: separator ++ after)
      rw [← List.append_assoc, ← eq_append_of_cut? h, h] at hwhole
      have hlength := congrArg (fun parts => parts.map fun parts => parts.2.length) hwhole
      simp at hlength
      omega

theorem cut?_append_of_not_mem {first : Char} {separator t : Text} (h : first ∉ t)
    (more : Text) :
    cut? (first :: separator) (t ++ more) =
      (cut? (first :: separator) more).map fun parts => (t ++ parts.1, parts.2) := by
  induction t with
  | nil => simp
  | cons c rest ih =>
      obtain ⟨hc, hrest⟩ := not_or.mp (mt List.mem_cons.mpr h)
      rw [List.cons_append, cut?_cons, if_neg (by simp [hc]), ih hrest]
      cases cut? (first :: separator) more <;> rfl

private theorem prefix_of_prefix_append_cons {c : Char} {separator t more : Text}
    (hc : c ∉ separator) (h : separator <+: t ++ c :: more) : separator <+: t := by
  rcases List.prefix_or_prefix_of_prefix h (List.prefix_append t (c :: more)) with
    hprefix | ⟨rest, rfl⟩
  · exact hprefix
  · rw [List.prefix_append_right_inj] at h
    cases rest with
    | nil => simp
    | cons d rest =>
        obtain ⟨rfl, -⟩ := List.cons_prefix_cons.mp h
        exact absurd (by simp) hc

theorem cut?_append_cons_of_none {first c : Char} {separator t : Text}
    (hc : c ∉ first :: separator) (h : cut? (first :: separator) t = none) (more : Text) :
    cut? (first :: separator) (t ++ c :: more) =
      (cut? (first :: separator) more).map fun parts => (t ++ c :: parts.1, parts.2) := by
  induction t with
  | nil =>
      have hfirst : first ∉ [c] := by
        rintro hmem
        exact hc (List.mem_singleton.mp hmem ▸ List.mem_cons_self)
      exact cut?_append_of_not_mem hfirst more
  | cons d rest ih =>
      rw [cut?_cons] at h
      split at h
      · simp at h
      · rename_i hmissed
        rw [List.isPrefixOf_iff_prefix] at hmissed
        have hlong : ¬ (first :: separator).isPrefixOf (d :: (rest ++ c :: more)) = true := by
          rw [List.isPrefixOf_iff_prefix]
          exact fun hlong => hmissed (prefix_of_prefix_append_cons hc hlong)
        rw [List.cons_append, cut?_cons, if_neg hlong, ih (by simpa using h)]
        cases cut? (first :: separator) more <;> rfl

theorem cut?_append_of_absent {c : Char} {t : Text} (habsent : ¬ [c, c] <:+: t)
    (hlast : t.getLast? ≠ some c) (more : Text) :
    cut? [c, c] (t ++ more) =
      (cut? [c, c] more).map fun parts => (t ++ parts.1, parts.2) := by
  induction t with
  | nil => simp
  | cons d rest ih =>
      have hrest : ¬ [c, c] <:+: rest :=
        fun h => habsent (h.trans (List.suffix_cons d rest).isInfix)
      have hmissed : ¬ [c, c].isPrefixOf (d :: (rest ++ more)) = true := by
        intro h
        cases rest with
        | nil =>
            simp only [List.nil_append, List.isPrefixOf_cons_cons, Bool.and_eq_true,
              beq_iff_eq] at h
            exact hlast (by simp [h.1])
        | cons e rest =>
            simp only [List.cons_append, List.isPrefixOf_cons_cons, Bool.and_eq_true,
              beq_iff_eq] at h
            obtain ⟨rfl, rfl, -⟩ := h
            exact habsent (List.prefix_append [c, c] rest).isInfix
      have hlast' : rest.getLast? ≠ some c := by
        intro h
        cases rest with
        | nil => simp at h
        | cons e rest => exact hlast (by rw [List.getLast?_cons_cons]; exact h)
      rw [List.cons_append, cut?_cons, if_neg hmissed, ih hrest hlast']
      cases cut? [c, c] more <;> rfl

theorem cut?_append_doubled_iff {c : Char} {t : Text} :
    cut? [c, c] (t ++ [c, c]) = some (t, []) ↔ ¬ [c, c] <:+: t ∧ t.getLast? ≠ some c := by
  constructor
  · intro h
    refine ⟨not_infix_of_cut? h, fun hlast => ?_⟩
    obtain ⟨before, rfl⟩ := List.getLast?_eq_some_iff.mp hlast
    -- the text is cut one character earlier
    cases hcut : cut? [c, c] (before ++ [c, c]) with
    | none => exact cut?_eq_none_iff.mp hcut (List.suffix_append before [c, c]).isInfix
    | some parts =>
        have hlonger := cut?_append_of_some hcut [c]
        simp only [List.append_assoc, List.cons_append, List.nil_append] at h hlonger
        rw [h] at hlonger
        simp at hlonger
  · rintro ⟨habsent, hlast⟩
    rw [cut?_append_of_absent habsent hlast]
    simp [cut?_cons]

end BraceTemplate.Text
