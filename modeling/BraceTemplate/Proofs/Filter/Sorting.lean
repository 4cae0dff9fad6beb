import BraceTemplate.Proofs.Filter.Insertion
import BraceTemplate.Proofs.Number.Order
import BraceTemplate.Proofs.Text.ByteOrder

/-!
# Sorting

Two items are compared by number if both count as numbers, and else by text.
Numbers are not ordered as their texts are, so that this is an order of items
only if no text stands between numbers that the texts order otherwise, and if
there is no NaN beside numbers that differ.  Where it is an order, sorting puts
the items in it and leaves equal ones as they stood.
-/

namespace BraceTemplate

namespace Measure

/-! ## Keys -/

def IsNumber (key : Option Measure) : Prop := ∃ x, key = some (.number x)

def IsProper (key : Option Measure) : Prop := ∃ x, key = some (.number x) ∧ (x == x) = true

instance : DecidablePred IsNumber
  | some (.number x) => isTrue ⟨x, rfl⟩
  | some (.text _) | none => isFalse (by rintro ⟨x, hx⟩; cases hx)

instance : DecidablePred IsProper
  | some (.number x) => decidable_of_iff ((x == x) = true) (by simp [IsProper])
  | some (.text _) | none => isFalse (by rintro ⟨x, hx, -⟩; cases hx)

def compareAsTexts (a b : Option Measure) : Ordering := compare (sortText a) (sortText b)

instance : Std.TransCmp compareAsTexts where
  eq_swap := Std.OrientedOrd.eq_swap
  isLE_trans := Std.TransOrd.isLE_trans

variable {a b c : Option Measure}

theorem compareForSort_of_not_isNumber (h : ¬ IsNumber a ∨ ¬ IsNumber b) :
    compareForSort a b = compareAsTexts a b := by
  unfold compareForSort
  split
  · simp [IsNumber] at h
  · rfl

instance : Std.OrientedCmp compareForSort where
  eq_swap {a b} := by
    by_cases h : IsNumber a ∧ IsNumber b
    · obtain ⟨⟨x, rfl⟩, y, rfl⟩ := h
      simp only [compareForSort, compareNumbers?_swap y x]
      cases compareNumbers? y x <;> rfl
    · have hor := not_and_or.mp h
      rw [compareForSort_of_not_isNumber hor, compareForSort_of_not_isNumber hor.symm]
      exact Std.OrientedCmp.eq_swap

/--
With a NaN among them all numbers are equal, and two keys that a key without a
number stands between are ordered as their texts are.
-/
structure Comparable (keys : List (Option Measure)) : Prop where
  equal : ∀ x, some (.number x) ∈ keys → (x == x) = false →
    ∀ a ∈ keys, ∀ b ∈ keys, IsNumber a → IsNumber b → compareForSort a b = .eq
  between : ∀ key ∈ keys, ¬ IsNumber key → ∀ a ∈ keys, ∀ b ∈ keys,
    (compareAsTexts a key).isLE = true → (compareAsTexts key b).isLE = true →
      compareForSort a b = compareAsTexts a b

namespace Comparable

variable {keys : List (Option Measure)}

theorem trans_of_numbers (h : Comparable keys) (ha : a ∈ keys) (hb : b ∈ keys) (hc : c ∈ keys)
    (hnumbers : IsNumber a ∧ IsNumber b ∧ IsNumber c)
    (hab : (compareForSort a b).isLE = true) (hbc : (compareForSort b c).isLE = true) :
    (compareForSort a c).isLE = true := by
  obtain ⟨⟨x, rfl⟩, ⟨y, rfl⟩, z, rfl⟩ := hnumbers
  by_cases hnan : (x == x) = true ∧ (y == y) = true ∧ (z == z) = true
  · obtain ⟨hx, hy, hz⟩ := hnan
    simp only [compareForSort, compareNumbers?_eq_some, hx, hy, hz, Option.getD_some] at hab hbc ⊢
    exact Std.TransCmp.isLE_trans hab hbc
  · have hequal : compareForSort (some (.number x)) (some (.number z)) = .eq := by
      simp only [not_and_or, Bool.not_eq_true] at hnan
      rcases hnan with hx | hy | hz
      · exact h.equal x ha hx _ ha _ hc ⟨x, rfl⟩ ⟨z, rfl⟩
      · exact h.equal y hb hy _ ha _ hc ⟨x, rfl⟩ ⟨z, rfl⟩
      · exact h.equal z hc hz _ ha _ hc ⟨x, rfl⟩ ⟨z, rfl⟩
    rw [hequal]
    rfl

theorem trans (h : Comparable keys) (ha : a ∈ keys) (hb : b ∈ keys) (hc : c ∈ keys)
    (hab : (compareForSort a b).isLE = true) (hbc : (compareForSort b c).isLE = true) :
    (compareForSort a c).isLE = true := by
  by_cases hbNumber : IsNumber b
  · by_cases haNumber : IsNumber a
    · by_cases hcNumber : IsNumber c
      · exact h.trans_of_numbers ha hb hc ⟨haNumber, hbNumber, hcNumber⟩ hab hbc
      · -- if `c` came before `a`, it would stand between `b` and `a`
        rw [compareForSort_of_not_isNumber (.inr hcNumber)] at hbc ⊢
        by_contra hac
        have hca := Std.OrientedCmp.lt_of_not_isLE hac
        have hba := h.between c hc hcNumber b hb a ha hbc (Ordering.isLE_of_eq_lt hca)
        rw [Std.TransCmp.lt_of_isLE_of_lt hbc hca] at hba
        exact Std.OrientedCmp.not_isLE_of_lt hba hab
    · -- if `c` came before `a`, then `a` would stand between `c` and `b`
      rw [compareForSort_of_not_isNumber (.inl haNumber)] at hab ⊢
      by_contra hac
      have hca := Std.OrientedCmp.lt_of_not_isLE hac
      have hcb := h.between a ha haNumber c hc b hb (Ordering.isLE_of_eq_lt hca) hab
      rw [Std.TransCmp.lt_of_lt_of_isLE hca hab] at hcb
      exact Std.OrientedCmp.not_isLE_of_lt hcb hbc
  · rw [compareForSort_of_not_isNumber (.inr hbNumber)] at hab
    rw [compareForSort_of_not_isNumber (.inl hbNumber)] at hbc
    rw [h.between b hb hbNumber a ha c hc hab hbc]
    exact Std.TransCmp.isLE_trans hab hbc

section Transitive

variable (h : ∀ a ∈ keys, ∀ b ∈ keys, ∀ c ∈ keys, (compareForSort a b).isLE = true →
  (compareForSort b c).isLE = true → (compareForSort a c).isLE = true)

include h

theorem equal_of_trans {x : Float} (hx : some (.number x) ∈ keys) (hnan : (x == x) = false)
    (ha : a ∈ keys) (hb : b ∈ keys) (haNumber : IsNumber a) (hbNumber : IsNumber b) :
    compareForSort a b = .eq := by
  have hequal : ∀ key, IsNumber key → compareForSort key (some (.number x)) = .eq := by
    rintro key ⟨y, rfl⟩
    simp [compareForSort, compareNumbers?_eq_none (.inr hnan)]
  have hle : ∀ a ∈ keys, ∀ b ∈ keys, IsNumber a → IsNumber b →
      (compareForSort a b).isLE = true := by
    intro a ha b hb haNumber hbNumber
    exact h a ha _ hx b hb (Ordering.isLE_of_eq_eq (hequal a haNumber))
      (Ordering.isLE_of_eq_eq (Std.OrientedCmp.eq_symm (hequal b hbNumber)))
  exact Std.OrientedCmp.isLE_antisymm (hle a ha b hb haNumber hbNumber)
    (hle b hb a ha hbNumber haNumber)

theorem between_of_trans {key : Option Measure} (hkey : key ∈ keys) (hnumber : ¬ IsNumber key)
    (ha : a ∈ keys) (hb : b ∈ keys) (hakey : (compareAsTexts a key).isLE = true)
    (hkeyb : (compareAsTexts key b).isLE = true) : compareForSort a b = compareAsTexts a b := by
  have hleft : ∀ other, compareForSort other key = compareAsTexts other key :=
    fun other => compareForSort_of_not_isNumber (.inr hnumber)
  have hright : ∀ other, compareForSort key other = compareAsTexts key other :=
    fun other => compareForSort_of_not_isNumber (.inl hnumber)
  have hab := h a ha key hkey b hb (by rwa [hleft]) (by rwa [hright])
  have htexts : (compareAsTexts a b).isLE = true := Std.TransCmp.isLE_trans hakey hkeyb
  -- `b` comes before `a` in one order if it does in the other: then `key` is equal to both
  have hback : (compareForSort b a).isLE = true ↔ (compareAsTexts b a).isLE = true := by
    constructor
    · intro hba
      have hkeya := h key hkey b hb a ha (by rwa [hright]) hba
      have hbkey := h b hb a ha key hkey hba (by rwa [hleft])
      rw [hright] at hkeya
      rw [hleft] at hbkey
      exact Std.TransCmp.isLE_trans hbkey hkeya
    · intro hba
      have hbkey : (compareAsTexts b key).isLE = true := Std.TransCmp.isLE_trans hba hakey
      have hkeya : (compareAsTexts key a).isLE = true := Std.TransCmp.isLE_trans hkeyb hba
      exact h b hb key hkey a ha (by rwa [hleft]) (by rwa [hright])
  have hswap : compareForSort b a = (compareForSort a b).swap := Std.OrientedCmp.eq_swap
  have hswapTexts : compareAsTexts b a = (compareAsTexts a b).swap := Std.OrientedCmp.eq_swap
  have hdetermined : ∀ first second : Ordering, first.isLE = true → second.isLE = true →
      (first.swap.isLE = true ↔ second.swap.isLE = true) → first = second := by
    decide
  rw [hswap, hswapTexts] at hback
  exact hdetermined _ _ hab htexts hback

end Transitive

theorem iff_trans :
    Comparable keys ↔
      ∀ a ∈ keys, ∀ b ∈ keys, ∀ c ∈ keys, (compareForSort a b).isLE = true →
        (compareForSort b c).isLE = true → (compareForSort a c).isLE = true :=
  ⟨fun h _ ha _ hb _ hc => h.trans ha hb hc, fun h =>
    ⟨fun _ hx hnan _ ha _ hb => equal_of_trans h hx hnan ha hb,
      fun _ hkey hnumber _ ha _ hb => between_of_trans h hkey hnumber ha hb⟩⟩

instance : Decidable (Comparable keys) := decidable_of_iff _ iff_trans.symm

theorem of_numbers (h : ∀ key ∈ keys, IsProper key) : Comparable keys := by
  constructor
  · intro x hx hnan
    obtain ⟨y, hy, hself⟩ := h _ hx
    cases hy
    rw [hnan] at hself
    cases hself
  · intro key hkey hnumber
    obtain ⟨x, hx, -⟩ := h key hkey
    exact absurd ⟨x, hx⟩ hnumber

theorem of_texts (h : ∀ key ∈ keys, ¬ IsNumber key) : Comparable keys := by
  constructor
  · intro x hx
    exact absurd ⟨x, rfl⟩ (h _ hx)
  · intro key hkey hnumber a ha b hb _ _
    exact compareForSort_of_not_isNumber (.inl (h a ha))

end Comparable

/-! ## Equal keys -/

def numberIs (x : Float) : Option Measure → Bool
  | some (.number y) => y == x
  | _ => false

theorem compareForSort_of_numberIs {x : Float} (ha : numberIs x a = true)
    (hb : numberIs x b = true) : compareForSort a b = .eq := by
  unfold numberIs at ha hb
  split at ha
  · split at hb
    · simp [compareForSort, compareNumbers?_of_beq ha hb]
    · cases hb
  · cases ha

theorem isLE_compareForSort_number {x y : Float} (hx : (x == x) = true) (hy : (y == y) = true) :
    (compareForSort (some (.number x)) (some (.number y))).isLE = true ↔ x ≤ y := by
  rw [le_iff_compareNumbers?, compareForSort, compareNumbers?_eq_some hx hy]
  rfl

end Measure

namespace Filter

open BraceTemplate.Measure (IsNumber IsProper Comparable compareForSort sortText numberIs)

variable {H : Type} [HostObject H]

/-! ## The order of items -/

def compareItems (property : Option String) (a b : Value H) : Ordering :=
  compareForSort (sortKey property a) (sortKey property b)

instance (property : Option String) : Std.OrientedCmp (compareItems (H := H) property) where
  eq_swap := (inferInstance : Std.OrientedCmp compareForSort).eq_swap

def itemLess (property : Option String) (a b : Value H) : Bool :=
  compareItems property a b == .lt

variable {property : Option String} {items : List (Value H)}

theorem itemLess_eq_false {a b : Value H} :
    itemLess property b a = false ↔ (compareItems property a b).isLE = true := by
  have hswap : compareItems property b a = (compareItems property a b).swap :=
    Std.OrientedCmp.eq_swap
  rw [itemLess, hswap]
  cases compareItems property a b <;> decide

theorem sortItems_eq (items : List (Value H)) :
    sortItems property items = insertionSort (itemLess property) items := by
  rw [sortItems, insertionSort_map, List.map_map]
  exact List.map_id _

theorem sortItems_perm (items : List (Value H)) : (sortItems property items).Perm items := by
  rw [sortItems_eq]
  exact insertionSort_perm items

theorem mem_sortItems {item : Value H} : item ∈ sortItems property items ↔ item ∈ items :=
  (sortItems_perm items).mem_iff

theorem weakOrder_itemLess (h : Comparable (items.map (sortKey property))) :
    WeakOrder (itemLess property) items := by
  constructor
  · intro a _ b _ hless
    rw [itemLess_eq_false]
    exact Ordering.isLE_of_eq_lt (beq_iff_eq.mp hless)
  · intro a ha b hb c hc hab hbc
    rw [itemLess_eq_false] at hab hbc ⊢
    exact h.trans (List.mem_map_of_mem ha) (List.mem_map_of_mem hb) (List.mem_map_of_mem hc) hab hbc

theorem pairwise_sortItems (h : Comparable (items.map (sortKey property))) :
    (sortItems property items).Pairwise fun a b => (compareItems property a b).isLE = true := by
  rw [sortItems_eq]
  exact (pairwise_insertionSort (weakOrder_itemLess h)).imp itemLess_eq_false.mp

theorem filter_sortItems {alike : Value H → Bool}
    (halike : ∀ a ∈ items, ∀ b ∈ items, alike a = true → alike b = true →
      compareItems property a b = .eq) :
    (sortItems property items).filter alike = items.filter alike := by
  rw [sortItems_eq]
  apply filter_insertionSort
  intro a ha b hb haAlike hbAlike
  rw [itemLess, halike a ha b hb haAlike hbAlike]
  rfl

theorem tied_itemLess (a b : Value H) :
    tied (itemLess property) a b = (compareItems property a b == .eq) := by
  have hswap : compareItems property b a = (compareItems property a b).swap :=
    Std.OrientedCmp.eq_swap
  rw [tied, itemLess, itemLess, hswap]
  cases compareItems property a b <;> rfl

theorem filter_sortItems_of_comparable (h : Comparable (items.map (sortKey property)))
    {a : Value H} (ha : a ∈ items) :
    (sortItems property items).filter (compareItems property a · == .eq) =
      items.filter (compareItems property a · == .eq) := by
  have hkey : ∀ {b : Value H}, b ∈ items → sortKey property b ∈ items.map (sortKey property) :=
    fun hb => List.mem_map_of_mem hb
  have hle : ∀ {b : Value H}, (compareItems property a b == .eq) = true →
      (compareItems property a b).isLE = true ∧ (compareItems property b a).isLE = true := by
    intro b heq
    have hab := beq_iff_eq.mp heq
    exact ⟨Ordering.isLE_of_eq_eq hab, Ordering.isLE_of_eq_eq (Std.OrientedCmp.eq_symm hab)⟩
  refine filter_sortItems fun b hb c hc hab hac => ?_
  obtain ⟨hab, hba⟩ := hle hab
  obtain ⟨hac, hca⟩ := hle hac
  exact Std.OrientedCmp.isLE_antisymm (h.trans (hkey hb) (hkey ha) (hkey hc) hba hac)
    (h.trans (hkey hc) (hkey ha) (hkey hb) hca hab)

/-- In order, with items that are equal as they stood. -/
structure IsStableSort (property : Option String) (items sorted : List (Value H)) : Prop where
  perm : sorted.Perm items
  ordered : sorted.Pairwise fun a b => (compareItems property a b).isLE = true
  stable : ∀ a ∈ items, sorted.filter (compareItems property a · == .eq) =
    items.filter (compareItems property a · == .eq)

theorem isStableSort_iff (h : Comparable (items.map (sortKey property)))
    {others : List (Value H)} :
    IsStableSort property items others ↔ others = sortItems property items := by
  constructor
  · rintro ⟨hperm, hordered, hstable⟩
    have hirrefl : ∀ a : Value H, itemLess property a a = false := fun a =>
      itemLess_eq_false.mpr (Ordering.isLE_of_eq_eq Std.ReflCmp.compare_self)
    refine eq_of_filter_tied hirrefl ?_ ?_ ?_
    · intro a ha
      have hin : a ∈ items := by simpa [hperm.mem_iff, mem_sortItems] using ha
      rw [show tied (itemLess property) a = _ from funext (tied_itemLess a), hstable a hin,
        filter_sortItems_of_comparable h hin]
    · exact hordered.imp itemLess_eq_false.mpr
    · exact (pairwise_sortItems h).imp itemLess_eq_false.mpr
  · rintro rfl
    exact ⟨sortItems_perm items, pairwise_sortItems h, fun _ => filter_sortItems_of_comparable h⟩

/-! ## Keys that are all numbers, and keys that are all texts -/

theorem pairwise_sortItems_numbers (h : ∀ item ∈ items, IsProper (sortKey property item)) :
    (sortItems property items).Pairwise fun a b =>
      ∃ x y, sortKey property a = some (.number x) ∧ sortKey property b = some (.number y) ∧
        x ≤ y := by
  have hkeys : Comparable (items.map (sortKey property)) :=
    .of_numbers (List.forall_mem_map.mpr h)
  refine (pairwise_sortItems hkeys).imp_of_mem fun {a b} ha hb hle => ?_
  obtain ⟨x, hx, hxx⟩ := h a (mem_sortItems.mp ha)
  obtain ⟨y, hy, hyy⟩ := h b (mem_sortItems.mp hb)
  rw [compareItems, hx, hy, Measure.isLE_compareForSort_number hxx hyy] at hle
  exact ⟨x, y, hx, hy, hle⟩

theorem compareItems_texts {a b : Value H} (ha : ¬ IsNumber (sortKey property a)) :
    compareItems property a b =
      compare (Text.bytes (sortText (sortKey property a)))
        (Text.bytes (sortText (sortKey property b))) := by
  rw [compareItems, Measure.compareForSort_of_not_isNumber (.inl ha)]
  exact Text.compare_eq_compare_bytes _ _

theorem pairwise_sortItems_texts (h : ∀ item ∈ items, ¬ IsNumber (sortKey property item)) :
    (sortItems property items).Pairwise fun a b =>
      (compare (Text.bytes (sortText (sortKey property a)))
        (Text.bytes (sortText (sortKey property b)))).isLE = true := by
  have hkeys : Comparable (items.map (sortKey property)) := .of_texts (List.forall_mem_map.mpr h)
  refine (pairwise_sortItems hkeys).imp_of_mem fun {a b} ha _ hle => ?_
  rwa [compareItems_texts (h a (mem_sortItems.mp ha))] at hle

theorem filter_sortItems_texts (h : ∀ item ∈ items, ¬ IsNumber (sortKey property item))
    (text : String) :
    (sortItems property items).filter (fun item => sortText (sortKey property item) == text) =
      items.filter (fun item => sortText (sortKey property item) == text) := by
  apply filter_sortItems
  intro a ha b hb haText hbText
  rw [compareItems_texts (h a ha), beq_iff_eq.mp haText, beq_iff_eq.mp hbText]
  exact Std.ReflOrd.compare_self

/-! ## Sorting -/

def sortProperty (arguments : List String) : Option String :=
  (arguments.head?.map (Value.mapText Text.trim)).filter (!·.isEmpty)

theorem sort_array (items : List (Value H)) (arguments : List String) :
    sort (.array items) arguments = .ok (.array (sortItems (sortProperty arguments) items)) :=
  rfl

/--
Where the keys are comparable, the result is what every stable sort gives.  Where they
are not, that there is a result is a law of sorting by insertion: another stable sort may
give any order there, or none.
-/
theorem sort_consistent (items : List (Value H)) (arguments : List String) :
    let property := sortProperty arguments
    (∀ a b : Value H, compareItems property b a = (compareItems property a b).swap) ∧
      (Comparable (items.map (sortKey property)) ↔
        ∀ a ∈ items, ∀ b ∈ items, ∀ c ∈ items, (compareItems property a b).isLE = true →
          (compareItems property b c).isLE = true → (compareItems property a c).isLE = true) ∧
      ∃ sorted, sort (.array items) arguments = .ok (.array sorted) ∧
        (Comparable (items.map (sortKey property)) →
          (sorted.Pairwise fun a b => (compareItems property a b).isLE = true) ∧
            ∀ others, IsStableSort property items others ↔ others = sorted) := by
  intro property
  refine ⟨fun a b => Std.OrientedCmp.eq_swap, ?_, sortItems property items, rfl,
    fun hkeys => ⟨pairwise_sortItems hkeys, fun _ => isStableSort_iff hkeys⟩⟩
  rw [Comparable.iff_trans]
  simp only [List.forall_mem_map, compareItems]

/-- Texts around numbers that are ordered as their texts are. -/
theorem sort_consistent_mixed :
    let items : List (Value Empty) := [.string "x", .string "9", .undefined, .null]
    Comparable (items.map (sortKey (sortProperty [" "]))) ∧
      ∃ sorted, sort (.array items) [" "] = .ok (.array sorted) ∧
        (sorted.Pairwise fun a b => (compareItems (sortProperty [" "]) a b).isLE = true) ∧
        IsStableSort (sortProperty [" "]) items sorted := by
  intro items
  have hkeys : Comparable (items.map (sortKey (sortProperty [" "]))) := by decide +kernel
  obtain ⟨-, -, sorted, hsort, hsorted⟩ := sort_consistent items [" "]
  obtain ⟨hordered, hstable⟩ := hsorted hkeys
  exact ⟨hkeys, sorted, hsort, hordered, (hstable sorted).mpr rfl⟩

/--
By number and by text in turn, three items come each before the next in a circle,
and items that were not in order stay as they were.
-/
theorem sort_circular :
    let order (a b : String) := compareItems none (.string a : Value Empty) (.string b)
    let items : List (Value Empty) := [.string "0", .string "-0", .string "-1a"]
    order "2" "10" = .lt ∧ order "10" "1a" = .lt ∧ order "1a" "2" = .lt ∧
      sort (.array items) [] = .ok (.array items) ∧ order "0" "-1a" = .gt := by
  intro order items
  have hfirst : itemLess none (.string "-0" : Value Empty) (.string "0") = false := by
    decide +kernel
  have hsecond : itemLess none (.string "-1a" : Value Empty) (.string "-0") = false := by
    decide +kernel
  have hsorted : sortItems none items = items := by
    rw [sortItems_eq]
    simp [items, insertionSort, insertBehind, hfirst, hsecond]
  have hproperty : sortProperty [] = none := rfl
  refine ⟨by decide +kernel, by decide +kernel, by decide +kernel, ?_, by decide +kernel⟩
  rw [sort_array, hproperty, hsorted]

/-- As to keys that are not comparable, the permutation is that of sorting by insertion. -/
theorem sort_stable (items : List (Value H)) (arguments : List String) :
    let key := sortKey (H := H) (sortProperty arguments)
    ∃ sorted, sort (.array items) arguments = .ok (.array sorted) ∧ sorted.Perm items ∧
      ((∀ item ∈ items, IsProper (key item)) →
        (sorted.Pairwise fun a b =>
          ∃ x y, key a = some (.number x) ∧ key b = some (.number y) ∧ x ≤ y) ∧
        ∀ x, sorted.filter (fun item => numberIs x (key item)) =
          items.filter fun item => numberIs x (key item)) ∧
      ((∀ item ∈ items, ¬ IsNumber (key item)) →
        (sorted.Pairwise fun a b =>
          (compare (Text.bytes (sortText (key a))) (Text.bytes (sortText (key b)))).isLE = true) ∧
        ∀ text, sorted.filter (fun item => sortText (key item) == text) =
          items.filter fun item => sortText (key item) == text) := by
  intro key
  refine ⟨sortItems (sortProperty arguments) items, rfl, ?_, fun hnumbers => ⟨?_, fun x => ?_⟩,
    fun htexts => ⟨?_, ?_⟩⟩
  · exact sortItems_perm items
  · exact pairwise_sortItems_numbers hnumbers
  · apply filter_sortItems
    intro a _ b _ ha hb
    exact Measure.compareForSort_of_numberIs ha hb
  · exact pairwise_sortItems_texts htexts
  · exact filter_sortItems_texts htexts

theorem sort_stable_by_part :
    let numbered : List (Value Empty) :=
      [.map [("1", .string " 10 ")], .array [.null, .bool true], .map [("1", .null)],
        .map [("1", .number 1.0), ("a", .null)]]
    let titled : List (Value Empty) :=
      [.map [("1", .string "b")], .map [], .map [("1", .string "B")]]
    (∃ sorted, sort (.array numbered) [" 1 "] = .ok (.array sorted) ∧ sorted.Perm numbered ∧
        sorted.filter (fun item => numberIs 1.0 (sortKey (some "1") item)) =
          [.array [.null, .bool true], .map [("1", .number 1.0), ("a", .null)]]) ∧
      ∃ sorted, sort (.array titled) [" 1 "] = .ok (.array sorted) ∧ sorted.Pairwise fun a b =>
          (compare (Text.bytes (sortText (sortKey (some "1") a)))
            (Text.bytes (sortText (sortKey (some "1") b)))).isLE = true := by
  intro numbered titled
  have hproperty : sortProperty [" 1 "] = some "1" := by decide +kernel
  have hnumbers : ∀ item ∈ numbered, IsProper (sortKey (some "1") item) := by decide +kernel
  have htexts : ∀ item ∈ titled, ¬ IsNumber (sortKey (some "1") item) := by decide +kernel
  have hone : numbered.filter (fun item => numberIs 1.0 (sortKey (some "1") item)) =
      [.array [.null, .bool true], .map [("1", .number 1.0), ("a", .null)]] := by
    rfl
  obtain ⟨sorted, hsort, hperm, hnumbered, -⟩ := sort_stable numbered [" 1 "]
  obtain ⟨others, hothers, -, -, htitled⟩ := sort_stable titled [" 1 "]
  rw [hproperty] at hnumbered htitled
  exact ⟨⟨sorted, hsort, hperm, ((hnumbered hnumbers).2 1.0).trans hone⟩,
    others, hothers, (htitled htexts).1⟩

end Filter

end BraceTemplate
