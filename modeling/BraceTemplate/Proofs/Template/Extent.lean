import BraceTemplate.Template.Extent

/-!
# Where a block ends

Laws of `findCloser?`: it looks at no tag behind the last closer of its token,
it fails exactly where there is none, and behind tags in which openers and
closers of the token are balanced it finds the first closer.
-/

namespace BraceTemplate

namespace Tag

theorem openingToken?_of_closes {token : Text} {tag : Tag} (h : tag.closes token = true) :
    tag.openingToken? = none := by
  have hkind : tag.kind = .closer token := eq_of_beq h
  simp [openingToken?, hkind]

theorem opens_of_closes {token : Text} {tag : Tag} (h : tag.closes token = true)
    (other : Text) : tag.opens other = false := by
  simp [opens, openingToken?_of_closes h]

theorem closes_of_opens {token : Text} {tag : Tag} (h : tag.opens token = true)
    (other : Text) : tag.closes other = false := by
  cases hcloses : tag.closes other with
  | false => rfl
  | true => simp [opens_of_closes hcloses] at h

end Tag

/-! ## Finding a closer -/

theorem findCloser?_eq_none_iff {token : Text} {depth : Nat} {tags : List Tag} :
    findCloser? token depth tags = none ↔ ∀ tag ∈ tags, tag.closes token = false := by
  induction tags generalizing depth with
  | nil => simp [findCloser?]
  | cons tag rest ih =>
      rw [findCloser?]
      cases hcloses : tag.closes token with
      | true =>
          by_cases hdepth : depth ≤ 1 <;> simp [hdepth, hcloses]
      | false =>
          cases hopens : tag.opens token <;> simp [ih, hcloses]

theorem findCloser?_isSome {token : Text} (tags : List Tag) {closer : Tag}
    (hmem : closer ∈ tags) (hcloses : closer.closes token = true) (depth : Nat) :
    ∃ distance, findCloser? token depth tags = some distance := by
  apply Option.ne_none_iff_exists'.mp
  intro hnone
  have hfalse := findCloser?_eq_none_iff.mp hnone closer hmem
  simp [hcloses] at hfalse

theorem findCloser?_lt {token : Text} {depth distance : Nat} {tags : List Tag}
    (h : findCloser? token depth tags = some distance) : distance < tags.length := by
  induction tags generalizing depth distance with
  | nil => simp [findCloser?] at h
  | cons tag rest ih =>
      rw [findCloser?] at h
      split at h
      · split at h
        · simp only [Option.some.injEq] at h
          subst h
          simp
        · cases hfound : findCloser? token (depth - 1) rest with
          | none =>
              simp only [hfound, Option.elim_none, Option.some.injEq] at h
              subst h
              simp
          | some inner =>
              have hinner := ih hfound
              simp only [hfound, Option.elim_some, Option.some.injEq] at h
              simp only [List.length_cons]
              omega
      · split at h
        all_goals
          obtain ⟨inner, hfound, rfl⟩ := Option.map_eq_some_iff.mp h
          have hinner := ih hfound
          simp only [List.length_cons]
          omega

theorem closes_of_findCloser? {token : Text} {depth distance : Nat} {tags : List Tag}
    (h : findCloser? token depth tags = some distance) :
    ∃ closer, tags[distance]? = some closer ∧ closer.closes token = true := by
  induction tags generalizing depth distance with
  | nil => simp [findCloser?] at h
  | cons tag rest ih =>
      rw [findCloser?] at h
      split at h
      · rename_i hcloses
        -- this closer is taken, unless the search behind it finds another
        split at h
        · obtain rfl := Option.some.inj h
          exact ⟨tag, rfl, hcloses⟩
        · cases hfound : findCloser? token (depth - 1) rest with
          | none =>
              rw [hfound] at h
              obtain rfl := Option.some.inj h
              exact ⟨tag, rfl, hcloses⟩
          | some inner =>
              rw [hfound] at h
              obtain rfl := Option.some.inj h
              exact ih hfound
      · split at h
        all_goals
          obtain ⟨inner, hfound, rfl⟩ := Option.map_eq_some_iff.mp h
          exact ih hfound

theorem findCloser?_append_of_not_closes {token : Text} {more : List Tag}
    (h : ∀ tag ∈ more, tag.closes token = false) (depth : Nat) (tags : List Tag) :
    findCloser? token depth (tags ++ more) = findCloser? token depth tags := by
  induction tags generalizing depth with
  | nil => exact findCloser?_eq_none_iff.mpr h
  | cons tag rest ih =>
      simp only [List.cons_append, findCloser?, ih]

theorem matchBlock?_cons_of_opens {token : Text} {opener : Tag}
    (h : opener.opens token = true) (rest : List Tag) :
    matchBlock? token (opener :: rest) =
      (findCloser? token 1 rest).map fun distance => ⟨0, distance + 1⟩ := by
  rw [matchBlock?, List.findIdx?_cons, h]
  simp only [if_true, List.drop_succ_cons, List.drop_zero]
  cases findCloser? token 1 rest with
  | none => rfl
  | some distance => simp [Nat.add_comm]

/-! ## Balance -/

/-- Every opener of the token has a closer behind it, and every closer an opener before it. -/
structure Balanced (token : Text) (tags : List Tag) : Prop where
  noSurplus : ∀ count, (tags.take count).countP (Tag.closes token) ≤
    (tags.take count).countP (Tag.opens token)
  even : tags.countP (Tag.closes token) = tags.countP (Tag.opens token)

namespace Balanced

variable {token : Text}

theorem iff_of_length {tags : List Tag} :
    Balanced token tags ↔
      (∀ count < tags.length, (tags.take count).countP (Tag.closes token) ≤
        (tags.take count).countP (Tag.opens token)) ∧
      tags.countP (Tag.closes token) = tags.countP (Tag.opens token) := by
  constructor
  · intro h
    exact ⟨fun count _ => h.noSurplus count, h.even⟩
  · rintro ⟨hsurplus, heven⟩
    refine ⟨fun count => ?_, heven⟩
    rcases Nat.lt_or_ge count tags.length with hlt | hge
    · exact hsurplus count hlt
    · rw [List.take_of_length_le hge]
      exact Nat.le_of_eq heven

instance (tags : List Tag) : Decidable (Balanced token tags) :=
  decidable_of_iff _ iff_of_length.symm

theorem nil : Balanced token [] := by
  constructor <;> simp

theorem append {first second : List Tag} (hfirst : Balanced token first)
    (hsecond : Balanced token second) : Balanced token (first ++ second) := by
  constructor
  · intro count
    have hleft := hfirst.noSurplus count
    have hright := hsecond.noSurplus (count - first.length)
    rw [List.take_append, List.countP_append, List.countP_append]
    omega
  · rw [List.countP_append, List.countP_append, hfirst.even, hsecond.even]

theorem of_neither {tags : List Tag}
    (hcloses : ∀ tag ∈ tags, tag.closes token = false)
    (hopens : ∀ tag ∈ tags, tag.opens token = false) : Balanced token tags := by
  constructor
  · intro count
    have hnone : (tags.take count).countP (Tag.closes token) = 0 := by
      rw [List.countP_eq_zero]
      intro tag hmem
      simp [hcloses tag (List.mem_of_mem_take hmem)]
    omega
  · have hcloses' : tags.countP (Tag.closes token) = 0 := by
      rw [List.countP_eq_zero]
      intro tag hmem
      simp [hcloses tag hmem]
    have hopens' : tags.countP (Tag.opens token) = 0 := by
      rw [List.countP_eq_zero]
      intro tag hmem
      simp [hopens tag hmem]
    omega

theorem cons_of_neither {tag : Tag} {tags : List Tag} (hcloses : tag.closes token = false)
    (hopens : tag.opens token = false) (htags : Balanced token tags) :
    Balanced token (tag :: tags) := by
  have htag : Balanced token [tag] := of_neither (by simpa using hcloses) (by simpa using hopens)
  exact htag.append htags

theorem block {opener closer : Tag} {inside : List Tag} (hopens : opener.opens token = true)
    (hcloses : closer.closes token = true) (hinside : Balanced token inside) :
    Balanced token (opener :: inside ++ [closer]) := by
  have hopener := Tag.closes_of_opens hopens token
  have hcloser := Tag.opens_of_closes hcloses token
  constructor
  · intro count
    cases count with
    | zero => simp
    | succ count =>
        have hprefix := hinside.noSurplus count
        have hlast : ([closer].take (count - inside.length)).countP (Tag.closes token) ≤ 1 :=
          Nat.le_trans List.countP_le_length (List.length_take_le' _ _)
        simp only [List.cons_append, List.take_succ_cons, List.take_append,
          List.countP_cons, List.countP_append, hopens, hopener]
        simp only [if_true, Bool.false_eq_true, if_false]
        omega
  · have heven := hinside.even
    simp only [List.countP_append, List.countP_cons, List.countP_nil, hopens, hopener,
      hcloses, hcloser]
    simp only [if_true, Bool.false_eq_true, if_false]
    omega

end Balanced

/--
Behind tags that never close more than is open, the search goes on at the depth
that they leave.  A closer must follow: without one a closer among these tags
would be taken instead.
-/
theorem findCloser?_append_of_noSurplus {token : Text} {tags rest : List Tag}
    (depth left : Nat)
    (hsurplus : ∀ count, (tags.take count).countP (Tag.closes token) ≤
      (tags.take count).countP (Tag.opens token) + depth)
    (hleft : depth + tags.countP (Tag.opens token) = left + tags.countP (Tag.closes token))
    (hrest : ∀ depth, ∃ distance, findCloser? token depth rest = some distance) :
    findCloser? token (depth + 1) (tags ++ rest) =
      (findCloser? token (left + 1) rest).map (· + tags.length) := by
  induction tags generalizing depth with
  | nil =>
      obtain rfl : depth = left := by simpa using hleft
      simp
  | cons tag tags ih =>
      have htail := fun count => hsurplus (count + 1)
      simp only [List.take_succ_cons, List.countP_cons] at htail hleft
      rw [List.cons_append, findCloser?]
      cases hcloses : tag.closes token with
      | true =>
          have hopens := Tag.opens_of_closes hcloses token
          simp only [hcloses, hopens, if_true, Bool.false_eq_true, if_false] at htail hleft ⊢
          have hdepth : 1 ≤ depth := by simpa using htail 0
          obtain ⟨depth, rfl⟩ := Nat.exists_eq_add_of_le' hdepth
          have hfound := ih depth (fun count => by have := htail count; omega)
            (by omega)
          obtain ⟨distance, hdistance⟩ := hrest (left + 1)
          -- the search behind this closer succeeds, so that it is not taken itself
          rw [if_neg (by omega), Nat.add_sub_cancel, hfound, hdistance]
          simp [Nat.add_assoc]
      | false =>
          cases hopens : tag.opens token with
          | true =>
              simp only [hcloses, hopens, if_true, Bool.false_eq_true, if_false]
                at htail hleft ⊢
              rw [ih (depth + 1) (fun count => by have := htail count; omega)
                (by omega), Option.map_map]
              rfl
          | false =>
              simp only [hcloses, hopens, Bool.false_eq_true, if_false] at htail hleft ⊢
              rw [ih depth (fun count => by have := htail count; omega)
                (by omega), Option.map_map]
              rfl

theorem findCloser?_of_balanced {token : Text} {inside after : List Tag} {closer : Tag}
    (hinside : Balanced token inside) (hcloser : closer.closes token = true) :
    findCloser? token 1 (inside ++ closer :: after) = some inside.length := by
  have hcloses := findCloser?_isSome (closer :: after) List.mem_cons_self hcloser
  rw [findCloser?_append_of_noSurplus 0 0 hinside.noSurplus (by rw [hinside.even]) hcloses,
    findCloser?, hcloser]
  simp

end BraceTemplate
