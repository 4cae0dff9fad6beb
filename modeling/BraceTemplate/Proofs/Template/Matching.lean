import BraceTemplate.Proofs.Template.Extent
import Mathlib.Order.Bounds.Basic

/-!
# Which closer a block is matched with

A block extends from the first opener of its token to the first place at which
as many closers as openers of the token have been read, from the opener on.
Where the two counts never meet it extends to the last closer, and without a
closer behind the opener there is no block.
-/

namespace BraceTemplate

variable {token : Text} {depth : Nat}

/-! ## Tag by tag -/

/-- Behind `depth` openers, none of the first `count` tags closes the outermost of them. -/
def StaysOpen (token : Text) (depth : Nat) (tags : List Tag) (count : Nat) : Prop :=
  ∀ position < count, (tags.take (position + 1)).countP (Tag.closes token) <
    (tags.take (position + 1)).countP (Tag.opens token) + depth

/-- Behind `depth` openers, the tag at `position` closes the outermost of them. -/
structure Evens (token : Text) (depth : Nat) (tags : List Tag) (position : Nat) : Prop where
  staysOpen : StaysOpen token depth tags position
  lt_length : position < tags.length
  even : (tags.take (position + 1)).countP (Tag.closes token) =
    (tags.take (position + 1)).countP (Tag.opens token) + depth

/-- No tag closes the outermost opener, and no closer follows the one at `position`. -/
structure RunsOut (token : Text) (depth : Nat) (tags : List Tag) (position : Nat) : Prop where
  staysOpen : StaysOpen token depth tags tags.length
  closes : ∃ closer, tags[position]? = some closer ∧ closer.closes token = true
  no_closer : ∀ tag ∈ tags.drop (position + 1), tag.closes token = false

theorem StaysOpen.of_not_closes {tags : List Tag} (hdepth : 1 ≤ depth)
    (h : ∀ tag ∈ tags, tag.closes token = false) (count : Nat) :
    StaysOpen token depth tags count := by
  intro position _
  have hzero : (tags.take (position + 1)).countP (Tag.closes token) = 0 := by
    rw [List.countP_eq_zero]
    intro tag hmem
    simp [h tag (List.mem_of_mem_take hmem)]
  omega

section Cons

variable {left : Nat} {tag : Tag} {rest : List Tag} (hpositive : 1 ≤ left)
  (hleft : [tag].countP (Tag.closes token) + left = [tag].countP (Tag.opens token) + depth)

include hleft

variable (rest) in
private theorem countP_take_cons (count : Nat) :
    ((tag :: rest).take (count + 1)).countP (Tag.closes token) +
        ((rest.take count).countP (Tag.opens token) + left) =
      ((tag :: rest).take (count + 1)).countP (Tag.opens token) + depth +
        (rest.take count).countP (Tag.closes token) := by
  rw [List.take_succ_cons, ← List.singleton_append, List.countP_append, List.countP_append]
  omega

include hpositive

theorem StaysOpen.cons {count : Nat} (h : StaysOpen token left rest count) :
    StaysOpen token depth (tag :: rest) (count + 1) := by
  intro position hposition
  have hcount := countP_take_cons rest hleft position
  cases position with
  | zero =>
      simp only [List.take_zero, List.countP_nil] at hcount
      omega
  | succ position =>
      have := h position (by omega)
      omega

theorem Evens.cons {position : Nat} (h : Evens token left rest position) :
    Evens token depth (tag :: rest) (position + 1) := by
  have hcount := countP_take_cons rest hleft (position + 1)
  have heven := h.even
  exact ⟨h.staysOpen.cons hpositive hleft, by simpa using h.lt_length, by omega⟩

theorem RunsOut.cons {position : Nat} (h : RunsOut token left rest position) :
    RunsOut token depth (tag :: rest) (position + 1) :=
  ⟨h.staysOpen.cons hpositive hleft, h.closes, h.no_closer⟩

end Cons

theorem evens_or_runsOut_of_findCloser? {distance : Nat} {tags : List Tag} (hdepth : 1 ≤ depth)
    (h : findCloser? token depth tags = some distance) :
    Evens token depth tags distance ∨ RunsOut token depth tags distance := by
  induction tags generalizing depth distance with
  | nil => simp [findCloser?] at h
  | cons tag rest ih =>
      -- the search goes on at the depth that this tag leaves
      have step : ∀ {left inner : Nat}, 1 ≤ left →
          [tag].countP (Tag.closes token) + left = [tag].countP (Tag.opens token) + depth →
          findCloser? token left rest = some inner →
          Evens token depth (tag :: rest) (inner + 1) ∨
            RunsOut token depth (tag :: rest) (inner + 1) := by
        intro left inner hpositive hleft hfound
        exact (ih hpositive hfound).imp (·.cons hpositive hleft) (·.cons hpositive hleft)
      rw [findCloser?] at h
      cases hcloses : tag.closes token with
      | true =>
          have hopens := Tag.opens_of_closes hcloses token
          rw [if_pos hcloses] at h
          split at h
          · -- the only opener left
            obtain rfl : depth = 1 := by omega
            obtain rfl := Option.some.inj h
            left
            exact ⟨by simp [StaysOpen], by simp, by simp [hcloses, hopens]⟩
          · cases hfound : findCloser? token (depth - 1) rest with
            | none =>
                rw [hfound] at h
                obtain rfl := Option.some.inj h
                -- the last closer, taken though openers are left
                have hrest := findCloser?_eq_none_iff.mp hfound
                have hopen : StaysOpen token (depth - 1) rest rest.length :=
                  .of_not_closes (by omega) hrest _
                right
                exact ⟨hopen.cons (by omega) (by simp [hcloses, hopens]; omega),
                  ⟨tag, rfl, hcloses⟩, hrest⟩
            | some inner =>
                rw [hfound] at h
                obtain rfl := Option.some.inj h
                exact step (by omega) (by simp [hcloses, hopens]; omega) hfound
      | false =>
          rw [if_neg (by simp [hcloses])] at h
          split at h
          · rename_i hopens
            obtain ⟨inner, hfound, rfl⟩ := Option.map_eq_some_iff.mp h
            exact step (by omega) (by simp [hcloses, hopens]; omega) hfound
          · rename_i hopens
            obtain ⟨inner, hfound, rfl⟩ := Option.map_eq_some_iff.mp h
            exact step hdepth (by simp [hcloses, hopens]) hfound

/-! ## Positions of a document -/

def tagsBetween (tags : List Tag) (first last : Nat) : List Tag := tags.extract first (last + 1)

def openerPositions (token : Text) (tags : List Tag) : Set Nat :=
  {position | ∃ tag, tags[position]? = some tag ∧ tag.opens token = true}

def closerPositions (token : Text) (tags : List Tag) (opener : Nat) : Set Nat :=
  {position | opener < position ∧ ∃ tag, tags[position]? = some tag ∧ tag.closes token = true}

def evenPositions (token : Text) (tags : List Tag) (opener : Nat) : Set Nat :=
  {position | opener < position ∧ position < tags.length ∧
    (tagsBetween tags opener position).countP (Tag.closes token) =
      (tagsBetween tags opener position).countP (Tag.opens token)}

/-- From the opener up to any position before `stop`, more openers than closers are read. -/
def OpenBefore (token : Text) (tags : List Tag) (opener stop : Nat) : Prop :=
  ∀ position, opener ≤ position → position < stop →
    (tagsBetween tags opener position).countP (Tag.closes token) <
      (tagsBetween tags opener position).countP (Tag.opens token)

section Opener

variable {tags : List Tag} {opener : Nat} {tag : Tag} (htag : tags[opener]? = some tag)
  (hopens : tag.opens token = true)

include htag

private theorem tagsBetween_eq (distance : Nat) :
    tagsBetween tags opener (opener + distance) =
      tag :: (tags.drop (opener + 1)).take distance := by
  obtain ⟨hlt, rfl⟩ := List.getElem?_eq_some_iff.mp htag
  rw [tagsBetween, List.extract_eq_take_drop, List.drop_eq_getElem_cons hlt,
    show opener + distance + 1 - opener = distance + 1 by omega, List.take_succ_cons]

include hopens

private theorem countP_tagsBetween (distance : Nat) :
    (tagsBetween tags opener (opener + distance)).countP (Tag.closes token) =
        ((tags.drop (opener + 1)).take distance).countP (Tag.closes token) ∧
      (tagsBetween tags opener (opener + distance)).countP (Tag.opens token) =
        ((tags.drop (opener + 1)).take distance).countP (Tag.opens token) + 1 := by
  have hcloses := Tag.closes_of_opens hopens token
  rw [tagsBetween_eq htag]
  simp [hopens, hcloses]

theorem StaysOpen.openBefore {count : Nat}
    (h : StaysOpen token 1 (tags.drop (opener + 1)) count) :
    OpenBefore token tags opener (opener + 1 + count) := by
  intro position hfirst hlast
  obtain ⟨distance, rfl⟩ := Nat.exists_eq_add_of_le hfirst
  have hcounts := countP_tagsBetween htag hopens distance
  rw [hcounts.1, hcounts.2]
  cases distance with
  | zero => simp
  | succ distance => exact h distance (by omega)

omit htag hopens in
private theorem OpenBefore.le_of_even {stop position : Nat} (h : OpenBefore token tags opener stop)
    (heven : position ∈ evenPositions token tags opener) : stop ≤ position := by
  obtain ⟨hbehind, -, heven⟩ := heven
  by_contra hlt
  have := h position (Nat.le_of_lt hbehind) (by omega)
  omega

theorem Evens.isLeast {distance : Nat} (h : Evens token 1 (tags.drop (opener + 1)) distance) :
    IsLeast (evenPositions token tags opener) (opener + 1 + distance) := by
  have hlength := h.lt_length
  have hcounts := countP_tagsBetween htag hopens (distance + 1)
  rw [List.length_drop] at hlength
  refine ⟨⟨by omega, by omega, ?_⟩, fun position => (h.staysOpen.openBefore htag hopens).le_of_even⟩
  rw [Nat.add_assoc, Nat.add_comm 1 distance, hcounts.1, hcounts.2]
  exact h.even

theorem RunsOut.isGreatest {distance : Nat}
    (h : RunsOut token 1 (tags.drop (opener + 1)) distance) :
    evenPositions token tags opener = ∅ ∧
      IsGreatest (closerPositions token tags opener) (opener + 1 + distance) := by
  constructor
  · rw [Set.eq_empty_iff_forall_notMem]
    intro position heven
    have hstop := (h.staysOpen.openBefore htag hopens).le_of_even heven
    have hlast := heven.2.1
    rw [List.length_drop] at hstop
    omega
  · obtain ⟨closer, hcloser, hcloses⟩ := h.closes
    rw [List.getElem?_drop] at hcloser
    refine ⟨⟨by omega, closer, hcloser, hcloses⟩, ?_⟩
    rintro position ⟨hbehind, other, hother, hcloses⟩
    by_contra hlt
    have hmem : other ∈ (tags.drop (opener + 1)).drop (distance + 1) := by
      apply List.mem_of_getElem? (i := position - (opener + distance + 2))
      rw [List.drop_drop, List.getElem?_drop, ← hother]
      congr 1
      omega
    simp [h.no_closer other hmem] at hcloses

theorem closerPositions_nonempty_of_even {position : Nat}
    (h : position ∈ evenPositions token tags opener) :
    (closerPositions token tags opener).Nonempty := by
  obtain ⟨hbehind, -, heven⟩ := h
  obtain ⟨distance, rfl⟩ := Nat.exists_eq_add_of_le (Nat.le_of_lt hbehind)
  have hcounts := countP_tagsBetween htag hopens distance
  have hpositive : 0 < ((tags.drop (opener + 1)).take distance).countP (Tag.closes token) := by
    omega
  obtain ⟨closer, hmem, hcloses⟩ := List.countP_pos_iff.mp hpositive
  obtain ⟨index, hindex⟩ := List.mem_iff_getElem?.mp (List.mem_of_mem_take hmem)
  rw [List.getElem?_drop] at hindex
  exact ⟨opener + 1 + index, by omega, closer, hindex, hcloses⟩

end Opener

/-! ## The extent of a block -/

theorem isLeast_of_findIdx? {tags : List Tag} {opener : Nat}
    (h : tags.findIdx? (Tag.opens token) = some opener) :
    IsLeast (openerPositions token tags) opener := by
  obtain ⟨hlt, hopens, hfirst⟩ := List.findIdx?_eq_some_iff_getElem.mp h
  refine ⟨⟨_, List.getElem?_eq_getElem hlt, hopens⟩, ?_⟩
  rintro position ⟨tag, htag, hopens⟩
  by_contra hbefore
  obtain ⟨hposition, rfl⟩ := List.getElem?_eq_some_iff.mp htag
  simp [hfirst position (by omega)] at hopens

/-- The extent that a block ought to have. -/
structure IsExtent (token : Text) (tags : List Tag) (extent : Extent) : Prop where
  opener : IsLeast (openerPositions token tags) extent.opener
  closer :
    (IsLeast (evenPositions token tags extent.opener) extent.closer ∧
      OpenBefore token tags extent.opener extent.closer) ∨
    (evenPositions token tags extent.opener = ∅ ∧
      IsGreatest (closerPositions token tags extent.opener) extent.closer)

theorem isExtent_of_matchBlock? {tags : List Tag} {extent : Extent}
    (h : matchBlock? token tags = some extent) : IsExtent token tags extent := by
  unfold matchBlock? at h
  cases hopener : tags.findIdx? (Tag.opens token) with
  | none => simp [hopener] at h
  | some opener =>
      simp only [hopener] at h
      obtain ⟨distance, hfound, rfl⟩ := Option.map_eq_some_iff.mp h
      have hleast := isLeast_of_findIdx? hopener
      obtain ⟨tag, htag, hopens⟩ := hleast.1
      refine ⟨hleast, ?_⟩
      rcases evens_or_runsOut_of_findCloser? Nat.le.refl hfound with hevens | hout
      · exact .inl ⟨hevens.isLeast htag hopens, hevens.staysOpen.openBefore htag hopens⟩
      · exact .inr (hout.isGreatest htag hopens)

theorem IsExtent.closerPositions_nonempty {tags : List Tag} {extent : Extent}
    (h : IsExtent token tags extent) : (closerPositions token tags extent.opener).Nonempty := by
  obtain ⟨tag, htag, hopens⟩ := h.opener.1
  rcases h.closer with ⟨heven, -⟩ | ⟨-, hgreatest⟩
  · exact closerPositions_nonempty_of_even htag hopens heven.1
  · exact ⟨_, hgreatest.1⟩

theorem IsExtent.unique {tags : List Tag} {first second : Extent}
    (hfirst : IsExtent token tags first) (hsecond : IsExtent token tags second) :
    first = second := by
  obtain ⟨opener, closer⟩ := first
  obtain ⟨other, otherCloser⟩ := second
  obtain rfl : opener = other := hfirst.opener.unique hsecond.opener
  congr 1
  rcases hfirst.closer with ⟨hleast, -⟩ | ⟨hempty, hgreatest⟩
  · rcases hsecond.closer with ⟨hother, -⟩ | ⟨hempty, -⟩
    · exact hleast.unique hother
    · exact absurd hleast.1 (hempty ▸ Set.notMem_empty closer)
  · rcases hsecond.closer with ⟨hother, -⟩ | ⟨-, hother⟩
    · exact absurd hother.1 (hempty ▸ Set.notMem_empty otherCloser)
    · exact hgreatest.unique hother

theorem matchBlock?_eq_none_iff {tags : List Tag} :
    matchBlock? token tags = none ↔
      openerPositions token tags = ∅ ∨
        ∃ opener, IsLeast (openerPositions token tags) opener ∧
          closerPositions token tags opener = ∅ := by
  unfold matchBlock?
  cases hopener : tags.findIdx? (Tag.opens token) with
  | none =>
      have hnone := List.findIdx?_eq_none_iff.mp hopener
      have hempty : openerPositions token tags = ∅ := by
        rw [Set.eq_empty_iff_forall_notMem]
        rintro position ⟨tag, htag, hopens⟩
        simp [hnone tag (List.mem_of_getElem? htag)] at hopens
      simp [hempty]
  | some opener =>
      have hleast := isLeast_of_findIdx? hopener
      have hsearch : closerPositions token tags opener = ∅ ↔
          findCloser? token 1 (tags.drop (opener + 1)) = none := by
        rw [findCloser?_eq_none_iff, Set.eq_empty_iff_forall_notMem]
        constructor
        · intro hnone tag hmem
          obtain ⟨index, hindex⟩ := List.mem_iff_getElem?.mp hmem
          rw [List.getElem?_drop] at hindex
          simpa using fun hcloses => hnone (opener + 1 + index) ⟨by omega, tag, hindex, hcloses⟩
        · rintro hnone position ⟨hbehind, tag, htag, hcloses⟩
          obtain ⟨index, rfl⟩ := Nat.exists_eq_add_of_le hbehind
          rw [← List.getElem?_drop] at htag
          simp [hnone tag (List.mem_of_getElem? htag)] at hcloses
      simp only [Option.map_eq_none_iff, ← hsearch]
      constructor
      · exact fun hempty => .inr ⟨opener, hleast, hempty⟩
      · rintro (hempty | ⟨first, hfirst, hempty⟩)
        · exact absurd hleast.1 (hempty ▸ Set.notMem_empty opener)
        · rwa [hleast.unique hfirst]

/--
There is no block exactly if the token is not opened, or not closed behind its
first opener.  Otherwise the block has the one extent that it ought to have.
-/
theorem matchBlock?_iff (token : Text) (tags : List Tag) :
    (matchBlock? token tags = none ↔
      openerPositions token tags = ∅ ∨
        ∃ opener, IsLeast (openerPositions token tags) opener ∧
          closerPositions token tags opener = ∅) ∧
    ∀ extent, matchBlock? token tags = some extent ↔ IsExtent token tags extent := by
  refine ⟨matchBlock?_eq_none_iff, fun extent => ⟨isExtent_of_matchBlock?, fun hextent => ?_⟩⟩
  cases hmatch : matchBlock? token tags with
  | some found => rw [(isExtent_of_matchBlock? hmatch).unique hextent]
  | none =>
      exfalso
      rcases matchBlock?_eq_none_iff.mp hmatch with hempty | ⟨opener, hleast, hempty⟩
      · exact absurd hextent.opener.1 (hempty ▸ Set.notMem_empty extent.opener)
      · rw [← hextent.opener.unique hleast] at hempty
        exact absurd hextent.closerPositions_nonempty (Set.not_nonempty_iff_eq_empty.mpr hempty)

-- with an opener too many, the block ends at the last closer
example : matchBlock? ".".toList
    (Scan.ofText "{{/.}}{{.|reverse}}{{.|upcase}}{{/.}}{{x}}".toList).tags = some ⟨1, 3⟩ := by
  decide +kernel

end BraceTemplate
