import BraceTemplate.Filter.Sequence
import Mathlib.Data.List.Forall2
import Mathlib.Data.List.Induction

/-!
# Sorting by insertion

Whatever the order, a sorted list holds the items it was given, and items none
of which is less than another stay as they stood.  If the order is a weak order
on the items, no item stands behind one that it is less than, and no other list of
the items is in order and leaves those as they stood.
-/

namespace BraceTemplate.Filter

variable {α : Type} {less : α → α → Bool}

/-! ## Related items -/

section Related

variable {β : Type} {rel : α → β → Prop} {lessOther : β → β → Bool}
  (hless : ∀ ⦃a b⦄, rel a b → ∀ ⦃c d⦄, rel c d → less a c = lessOther b d)

include hless

theorem insertBehind_forall₂ {item : α} {other : β} (hitem : rel item other) {sorted : List α}
    {others : List β} (h : List.Forall₂ rel sorted others) :
    List.Forall₂ rel (insertBehind less item sorted) (insertBehind lessOther other others) := by
  induction h with
  | nil => exact .cons hitem .nil
  | cons hlast hbefore ih =>
      rw [insertBehind, insertBehind, hless hitem hlast]
      split
      · exact .cons hlast ih
      · exact .cons hitem (.cons hlast hbefore)

theorem insertionSort_forall₂ {items : List α} {others : List β}
    (h : List.Forall₂ rel items others) :
    List.Forall₂ rel (insertionSort less items) (insertionSort lessOther others) := by
  have hstep : ∀ ⦃sorted others⦄, List.Forall₂ rel sorted others → ∀ ⦃item other⦄, rel item other →
      List.Forall₂ rel (insertBehind less item sorted) (insertBehind lessOther other others) :=
    fun _ _ hsorted _ _ hitem => insertBehind_forall₂ hless hitem hsorted
  exact List.rel_reverse (List.rel_foldl hstep .nil h)

end Related

theorem insertionSort_map {β : Type} (f : β → α) (items : List β) :
    insertionSort less (items.map f) =
      (insertionSort (fun a b => less (f a) (f b)) items).map f := by
  have hrelated : List.Forall₂ (fun a b => a = f b) (items.map f) items :=
    List.forall₂_map_left_iff.mpr (List.forall₂_same.mpr fun _ _ => rfl)
  have hless : ∀ ⦃a b⦄, a = f b → ∀ ⦃c d⦄, c = f d → less a c = less (f b) (f d) := by
    rintro _ b rfl _ d rfl
    rfl
  have hsorted := insertionSort_forall₂ hless hrelated
  rwa [← List.forall₂_map_right_iff, List.forall₂_eq_eq_eq] at hsorted

/-! ## One item more -/

theorem insertionSort_append_singleton (items : List α) (item : α) :
    insertionSort less (items ++ [item]) =
      (insertBehind less item (insertionSort less items).reverse).reverse := by
  simp [insertionSort]

theorem insertBehind_perm (item : α) (sorted : List α) :
    (insertBehind less item sorted).Perm (item :: sorted) := by
  induction sorted with
  | nil => exact .refl _
  | cons last before ih =>
      rw [insertBehind]
      split
      · exact (ih.cons last).trans (.swap item last before)
      · exact .refl _

theorem insertionSort_perm (items : List α) : (insertionSort less items).Perm items := by
  induction items using List.reverseRecOn with
  | nil => exact .refl _
  | append_singleton items item ih =>
      rw [insertionSort_append_singleton]
      have hinserted : (insertBehind less item (insertionSort less items).reverse).Perm
          (item :: (insertionSort less items).reverse) := insertBehind_perm item _
      calc (insertBehind less item (insertionSort less items).reverse).reverse.Perm
            (item :: (insertionSort less items).reverse) := (List.reverse_perm _).trans hinserted
        List.Perm _ (item :: items) := ((List.reverse_perm _).trans ih).cons item
        List.Perm _ (items ++ [item]) := (List.perm_append_singleton item items).symm

section Alike

variable {alike : α → Bool}

theorem filter_insertBehind {item : α} {sorted : List α}
    (halike : ∀ other ∈ sorted, alike item = true → alike other = true → less item other = false) :
    (insertBehind less item sorted).filter alike = (item :: sorted).filter alike := by
  induction sorted with
  | nil => rfl
  | cons last before ih =>
      rw [insertBehind]
      split
      · rename_i hless
        -- the item passes `last`, which is not alike to it
        have hbefore : ∀ other ∈ before, alike item = true → alike other = true →
            less item other = false := fun other hother => halike other (by simp [hother])
        rw [List.filter_cons, ih hbefore]
        cases hitem : alike item <;> cases hlast : alike last <;> simp [hitem, hlast]
        simp [halike last (by simp) hitem hlast] at hless
      · rfl

theorem filter_insertionSort {items : List α}
    (halike : ∀ a ∈ items, ∀ b ∈ items, alike a = true → alike b = true → less a b = false) :
    (insertionSort less items).filter alike = items.filter alike := by
  induction items using List.reverseRecOn with
  | nil => rfl
  | append_singleton items item ih =>
      have hitems : ∀ a ∈ items, ∀ b ∈ items, alike a = true → alike b = true →
          less a b = false := fun a ha b hb => halike a (by simp [ha]) b (by simp [hb])
      have hitem : ∀ other ∈ (insertionSort less items).reverse, alike item = true →
          alike other = true → less item other = false := by
        intro other hother
        rw [List.mem_reverse, (insertionSort_perm items).mem_iff] at hother
        exact halike item (by simp) other (by simp [hother])
      rw [insertionSort_append_singleton, List.filter_reverse, filter_insertBehind hitem,
        List.filter_append, ← ih hitems]
      cases hitem : alike item <;> simp [hitem]

end Alike

/-! ## Weak orders -/

structure WeakOrder (less : α → α → Bool) (items : List α) : Prop where
  asymm : ∀ a ∈ items, ∀ b ∈ items, less a b = true → less b a = false
  trans : ∀ a ∈ items, ∀ b ∈ items, ∀ c ∈ items,
    less b a = false → less c b = false → less c a = false

theorem WeakOrder.mono {items others : List α} (h : WeakOrder less items) (hsub : others ⊆ items) :
    WeakOrder less others where
  asymm a ha b hb := h.asymm a (hsub ha) b (hsub hb)
  trans a ha b hb c hc := h.trans a (hsub ha) b (hsub hb) c (hsub hc)

theorem pairwise_insertBehind {item : α} {sorted : List α} (h : WeakOrder less (item :: sorted))
    (hsorted : sorted.Pairwise fun later earlier => less later earlier = false) :
    (insertBehind less item sorted).Pairwise fun later earlier => less later earlier = false := by
  induction sorted with
  | nil => exact List.pairwise_singleton _ _
  | cons last before ih =>
      obtain ⟨hlast, hbefore⟩ := List.pairwise_cons.mp hsorted
      rw [insertBehind]
      split
      · rename_i hless
        have hrest : WeakOrder less (item :: before) := h.mono (by simp)
        refine List.pairwise_cons.mpr ⟨fun other hother => ?_, ih hrest hbefore⟩
        rcases List.mem_cons.mp ((insertBehind_perm item before).mem_iff.mp hother) with rfl | hmem
        · exact h.asymm _ (by simp) _ (by simp) hless
        · exact hlast other hmem
      · rename_i hless
        have hfirst : less item last = false := by simpa using hless
        refine List.pairwise_cons.mpr ⟨fun other hother => ?_, hsorted⟩
        rcases List.mem_cons.mp hother with rfl | hmem
        · exact hfirst
        · exact h.trans _ (by simp [hmem]) last (by simp) _ (by simp) (hlast other hmem) hfirst

theorem pairwise_insertionSort {items : List α} (h : WeakOrder less items) :
    (insertionSort less items).Pairwise fun earlier later => less later earlier = false := by
  induction items using List.reverseRecOn with
  | nil => exact .nil
  | append_singleton items item ih =>
      have hsorted := ih (h.mono (by simp))
      rw [insertionSort_append_singleton, List.pairwise_reverse]
      apply pairwise_insertBehind
      · refine h.mono fun other hother => ?_
        simpa [(insertionSort_perm items).mem_iff, or_comm] using hother
      · exact List.pairwise_reverse.mpr hsorted

/-! ## Uniqueness -/

def tied (less : α → α → Bool) (a b : α) : Bool := !less a b && !less b a

section Tied

variable {first second : List α} (hirrefl : ∀ a, less a a = false)
  (hfilter : ∀ a, a ∈ first ∨ a ∈ second → first.filter (tied less a) = second.filter (tied less a))

include hirrefl hfilter

theorem mem_iff_of_filter_tied (a : α) : a ∈ first ↔ a ∈ second := by
  have hself {items : List α} : a ∈ items.filter (tied less a) ↔ a ∈ items := by
    simp [List.mem_filter, tied, hirrefl]
  constructor
  · intro ha
    rwa [← hself, ← hfilter a (.inl ha), hself]
  · intro ha
    rwa [← hself, hfilter a (.inr ha), hself]

theorem eq_of_filter_tied (hfirst : first.Pairwise fun earlier later => less later earlier = false)
    (hsecond : second.Pairwise fun earlier later => less later earlier = false) :
    first = second := by
  induction first generalizing second with
  | nil =>
      refine (List.eq_nil_iff_forall_not_mem.mpr fun a ha => ?_).symm
      cases (mem_iff_of_filter_tied hirrefl hfilter a).mpr ha
  | cons a first ih =>
      have hmem := mem_iff_of_filter_tied hirrefl hfilter
      cases second with
      | nil => cases (hmem a).mp (List.mem_cons_self ..)
      | cons b second =>
          obtain ⟨hleast, hbehind⟩ := List.pairwise_cons.mp hfirst
          obtain ⟨hleastOther, hbehindOther⟩ := List.pairwise_cons.mp hsecond
          have hab : less a b = false := by
            rcases List.mem_cons.mp ((hmem a).mp (List.mem_cons_self ..)) with rfl | hin
            · exact hirrefl a
            · exact hleastOther a hin
          have hba : less b a = false := by
            rcases List.mem_cons.mp ((hmem b).mpr (List.mem_cons_self ..)) with rfl | hin
            · exact hirrefl b
            · exact hleast b hin
          -- both heads are the first item that is tied with `a`
          obtain rfl : a = b := by
            have hheads := hfilter a (.inl (List.mem_cons_self ..))
            simp only [List.filter_cons, tied, hirrefl, hab, hba] at hheads
            exact (List.cons.inj hheads).1
          refine congrArg (a :: ·) (ih (fun c hc => ?_) hbehind hbehindOther)
          have hboth := hfilter c (hc.imp (List.mem_cons_of_mem a) (List.mem_cons_of_mem a))
          simp only [List.filter_cons] at hboth
          split at hboth
          · exact (List.cons.inj hboth).2
          · exact hboth

end Tied

end BraceTemplate.Filter
