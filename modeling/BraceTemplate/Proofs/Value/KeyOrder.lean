import BraceTemplate.Filter.Measure
import BraceTemplate.Path
import BraceTemplate.Proofs.Dictionary
import Mathlib.Data.List.Forall2

/-!
# The order of keys

Values are reordered into one another by changing the places of the entries of
maps, at any depth.  No text, number or size of a value depends on these
places, and what lies below reordered values is reordered too.
-/

namespace BraceTemplate

variable {H : Type}

namespace Value

/-- Differ in the order of the entries of maps only, at any depth. -/
inductive Reordered : Value H → Value H → Prop where
  | refl (value : Value H) : Reordered value value
  | trans {first second third : Value H} :
      Reordered first second → Reordered second third → Reordered first third
  /-- Neighbouring entries of different names change places. -/
  | swap (before : Dictionary (Value H)) {entry next : String × Value H}
      (after : Dictionary (Value H)) :
      entry.1 ≠ next.1 →
        Reordered (map (before ++ entry :: next :: after)) (map (before ++ next :: entry :: after))
  | item (before : List (Value H)) {value other : Value H} (after : List (Value H)) :
      Reordered value other →
        Reordered (array (before ++ value :: after)) (array (before ++ other :: after))
  | entry (before : Dictionary (Value H)) (name : String) {value other : Value H}
      (after : Dictionary (Value H)) :
      Reordered value other →
        Reordered (map (before ++ (name, value) :: after)) (map (before ++ (name, other) :: after))

end Value

open Value (Reordered)

/-! ## Members of maps and arrays -/

namespace Dictionary

def Reordered (d other : Dictionary (Value H)) : Prop :=
  List.Forall₂ (fun entry otherEntry => entry.1 = otherEntry.1 ∧ entry.2.Reordered otherEntry.2)
    d other

theorem find?_swap {entry next : String × Value H} (h : entry.1 ≠ next.1)
    (before after : Dictionary (Value H)) (name : String) :
    find? (before ++ next :: entry :: after) name =
      find? (before ++ entry :: next :: after) name := by
  obtain ⟨first, value⟩ := entry
  obtain ⟨second, other⟩ := next
  simp only [find?_append, find?_cons]
  by_cases hfirst : name = first
  · simp [hfirst, show ¬ first = second from h]
  · simp [hfirst]

end Dictionary

namespace Json

theorem insertMember_comm {first second : String} (h : first ≠ second) (x y : Json)
    (members : Dictionary Json) :
    insertMember first x (insertMember second y members) =
      insertMember second y (insertMember first x members) := by
  induction members with
  | nil => grind [insertMember]
  | cons member rest ih =>
      obtain ⟨name, value⟩ := member
      grind [insertMember]

end Json

namespace Value.Reordered

/-! ## What is reordered -/

theorem forall₂_refl (items : List (Value H)) : List.Forall₂ Reordered items items :=
  List.forall₂_same.mpr fun item _ => .refl item

theorem forall₂_trans {first second third : List (Value H)}
    (h : List.Forall₂ Reordered first second) (hnext : List.Forall₂ Reordered second third) :
    List.Forall₂ Reordered first third := by
  induction h generalizing third with
  | nil => exact hnext
  | cons hitem _ ih =>
      cases hnext with
      | cons hother hrest => exact .cons (hitem.trans hother) (ih hrest)

theorem option_refl (value? : Option (Value H)) : Option.Rel Reordered value? value? := by
  cases value? with
  | none => exact .none
  | some value => exact .some (.refl value)

theorem option_trans {first second third : Option (Value H)} (h : Option.Rel Reordered first second)
    (hnext : Option.Rel Reordered second third) : Option.Rel Reordered first third := by
  cases h with
  | none => exact hnext
  | some hvalue =>
      cases hnext with
      | some hother => exact .some (hvalue.trans hother)

theorem of_forall₂ {items others : List (Value H)} (h : List.Forall₂ Reordered items others) :
    Reordered (array items) (array others) := by
  -- the items in front have been exchanged already
  have general : ∀ before, Reordered (array (before ++ items)) (array (before ++ others)) := by
    induction h with
    | nil => exact fun before => .refl _
    | @cons item other items others hitem _ ih =>
        intro before
        have hrest := ih (before ++ [other])
        rw [List.append_assoc, List.append_assoc] at hrest
        exact (Reordered.item before items hitem).trans hrest
  exact general []

theorem of_perm {entries others : Dictionary (Value H)} (h : entries.Perm others)
    (hnames : entries.names.Nodup) : Reordered (map entries) (map others) := by
  have general : ∀ before : Dictionary (Value H),
      Reordered (map (before ++ entries)) (map (before ++ others)) := by
    induction h with
    | nil => exact fun before => .refl _
    | @cons entry entries others _ ih =>
        intro before
        have hrest := ih (List.nodup_cons.mp hnames).2 (before ++ [entry])
        rwa [List.append_assoc, List.append_assoc] at hrest
    | swap entry next rest =>
        intro before
        refine .swap before rest fun hsame => ?_
        simp [Dictionary.names, hsame] at hnames
    | trans hfirst _ ihFirst ihSecond =>
        intro before
        have hmiddle := (hfirst.map Prod.fst).nodup_iff.mp hnames
        exact (ihFirst hnames before).trans (ihSecond hmiddle before)
  exact general []

theorem shape {value other : Value H} (h : Reordered value other) :
    value = other ∨
      (∃ items others, value = array items ∧ other = array others ∧
        List.Forall₂ Reordered items others) ∨
      ∃ entries others, value = map entries ∧ other = map others ∧
        entries.length = others.length ∧ ∀ name,
          Option.Rel Reordered (Dictionary.find? entries name) (Dictionary.find? others name) := by
  induction h with
  | refl value => exact .inl rfl
  | trans _ _ ihFirst ihSecond =>
      rcases ihFirst with rfl | ⟨items, middle, rfl, rfl, hitems⟩ |
        ⟨entries, middle, rfl, rfl, hlength, hfind⟩
      · exact ihSecond
      · rcases ihSecond with rfl | ⟨_, others, heq, rfl, hothers⟩ | ⟨_, _, heq, -⟩
        · exact .inr (.inl ⟨items, middle, rfl, rfl, hitems⟩)
        · cases heq
          exact .inr (.inl ⟨items, others, rfl, rfl, forall₂_trans hitems hothers⟩)
        · cases heq
      · rcases ihSecond with rfl | ⟨_, _, heq, -⟩ | ⟨_, others, heq, rfl, hother, hnext⟩
        · exact .inr (.inr ⟨entries, middle, rfl, rfl, hlength, hfind⟩)
        · cases heq
        · cases heq
          exact .inr (.inr ⟨entries, others, rfl, rfl, hlength.trans hother,
            fun name => option_trans (hfind name) (hnext name)⟩)
  | swap before after hnames =>
      refine .inr (.inr ⟨_, _, rfl, rfl, by simp, fun name => ?_⟩)
      rw [Dictionary.find?_swap hnames]
      exact option_refl _
  | item before after hitem _ =>
      exact .inr (.inl ⟨_, _, rfl, rfl,
        List.rel_append (forall₂_refl before) (.cons hitem (forall₂_refl after))⟩)
  | entry before name after hvalue _ =>
      refine .inr (.inr ⟨_, _, rfl, rfl, by simp, fun other => ?_⟩)
      rw [Dictionary.find?_append, Dictionary.find?_append, Dictionary.find?_cons,
        Dictionary.find?_cons]
      cases Dictionary.find? before other with
      | some value => exact option_refl _
      | none =>
          split
          · exact .some hvalue
          · exact option_refl _

/-! ## What the order does not show in -/

section Observation

variable {value other : Value H} (h : Reordered value other)

include h

theorem eq_of_count {α : Type} (f : Value H → α)
    (harray : ∀ items others, items.length = others.length → f (array items) = f (array others))
    (hmap : ∀ entries others, entries.length = others.length → f (map entries) = f (map others)) :
    f value = f other := by
  rcases h.shape with rfl | ⟨items, others, rfl, rfl, hitems⟩ |
    ⟨entries, others, rfl, rfl, hlength, -⟩
  · rfl
  · exact harray items others hitems.length_eq
  · exact hmap entries others hlength

theorem isUndefined_eq : value.isUndefined = other.isUndefined :=
  h.eq_of_count isUndefined (fun _ _ _ => rfl) fun _ _ _ => rfl

theorem isFalse_eq : value.isFalse = other.isFalse :=
  h.eq_of_count isFalse (fun _ _ _ => rfl) fun _ _ _ => rfl

theorem isTruthy_eq : value.isTruthy = other.isTruthy := by
  refine h.eq_of_count isTruthy (fun items others hlength => ?_) fun _ _ _ => rfl
  rw [isTruthy, isTruthy, Bool.eq_iff_iff]
  simp [← List.length_eq_zero_iff, hlength]

theorem asNumber?_eq : value.asNumber? = other.asNumber? :=
  h.eq_of_count asNumber? (fun _ _ _ => rfl) fun _ _ _ => rfl

theorem length?_eq : value.length? = other.length? :=
  h.eq_of_count length? (fun _ _ hlength => congrArg some hlength)
    fun _ _ hlength => congrArg some hlength

theorem measure_eq : Measure.ofValue? value = Measure.ofValue? other := by
  refine h.eq_of_count Measure.ofValue? (fun items others hlength => ?_) fun _ _ _ => rfl
  simp [Measure.ofValue?, hlength]

variable [HostObject H]

theorem toJson_eq : value.toJson = other.toJson := by
  induction h with
  | refl value => rfl
  | trans _ _ ihFirst ihSecond => exact ihFirst.trans ihSecond
  | swap before after hnames =>
      simp [toJson, Json.ofMembers, Json.insertMember_comm hnames]
  | item before after _ ih => simp [toJson, ih]
  | entry before name after _ ih => simp [toJson, ih]

theorem display_eq : value.display = other.display := by
  induction h with
  | refl value => rfl
  | trans _ _ ihFirst ihSecond => exact ihFirst.trans ihSecond
  | swap before after hnames =>
      rw [display, display, (Reordered.swap before after hnames).toJson_eq]
  | item before after _ ih => simp [display, ih]
  | entry before name after hvalue _ =>
      rw [display, display, (Reordered.entry before name after hvalue).toJson_eq]

example : (map [("y", .bool true), ("x", .null)] : Value Empty).display =
    "\x7b\"x\":null,\"y\":true\x7d" := by
  cbv

end Observation

/-! ## What lies below -/

theorem getElem? {items others : List (Value H)} (h : List.Forall₂ Reordered items others)
    (index : Nat) : Option.Rel Reordered items[index]? others[index]? := by
  induction h generalizing index with
  | nil => exact .none
  | cons hitem _ ih =>
      cases index with
      | zero => exact .some hitem
      | succ index => exact ih index

theorem child? [HostObject H] {value other : Value H} (h : Reordered value other)
    (segment : String) : Option.Rel Reordered (value.child? segment) (other.child? segment) := by
  rcases h.shape with rfl | ⟨items, others, rfl, rfl, hitems⟩ |
    ⟨entries, others, rfl, rfl, -, hfind⟩
  · exact option_refl _
  · rw [Value.child?, Value.child?]
    cases readIndex? segment.toList with
    | none => exact .none
    | some index => exact getElem? hitems index
  · exact hfind segment

theorem asArray? {value other : Value H} (h : Reordered value other) :
    Option.Rel (List.Forall₂ Reordered) value.asArray? other.asArray? := by
  rcases h.shape with rfl | ⟨items, others, rfl, rfl, hitems⟩ | ⟨entries, others, rfl, rfl, -, -⟩
  · cases value.asArray? with
    | none => exact .none
    | some items => exact .some (forall₂_refl items)
  · exact .some hitems
  · exact .none

end Value.Reordered

/-! ## Dictionaries and paths -/

namespace Dictionary.Reordered

variable {d other : Dictionary (Value H)}

theorem find? (h : d.Reordered other) (name : String) :
    Option.Rel Value.Reordered (d.find? name) (other.find? name) := by
  induction h with
  | nil => exact .none
  | @cons entry otherEntry rest others hentry _ ih =>
      obtain ⟨hname, hvalue⟩ := hentry
      rw [Dictionary.find?_cons, Dictionary.find?_cons, hname]
      split
      · exact .some hvalue
      · exact ih

theorem insert (h : d.Reordered other) (name : String) {value otherValue : Value H}
    (hvalue : value.Reordered otherValue) :
    (d.insert name value).Reordered (other.insert name otherValue) := by
  induction h with
  | nil => exact .cons ⟨rfl, hvalue⟩ .nil
  | @cons entry otherEntry rest others hentry hrest ih =>
      rw [Dictionary.insert, Dictionary.insert, hentry.1]
      split
      · exact .cons ⟨rfl, hvalue⟩ hrest
      · exact .cons ⟨rfl, hentry.2⟩ ih

end Dictionary.Reordered

namespace Path

variable [HostObject H]

theorem descend?_reordered {value other : Value H} (h : value.Reordered other)
    (segments : List String) :
    Option.Rel Value.Reordered (descend? value segments) (descend? other segments) := by
  induction segments generalizing value other with
  | nil => exact .some h
  | cons segment segments ih =>
      have hchild := h.child? segment
      simp only [descend?, List.foldlM_cons] at ih ⊢
      cases hfirst : value.child? segment <;> cases hsecond : other.child? segment <;>
        rw [hfirst, hsecond] at hchild <;> cases hchild
      · exact .none
      · rename_i hbelow
        exact ih hbelow

theorem resolve?_reordered {captures others globals otherGlobals : Dictionary (Value H)}
    (hcaptures : captures.Reordered others) (hglobals : globals.Reordered otherGlobals)
    (path : String) {context other : Value H} (hcontext : context.Reordered other) :
    Option.Rel Value.Reordered (resolve? captures globals path context)
      (resolve? others otherGlobals path other) := by
  have hroot : ∀ name, Option.Rel Value.Reordered (root? captures globals context name)
      (root? others otherGlobals other name) := by
    intro name
    have hor : ∀ {first second third fourth : Option (Value H)},
        Option.Rel Value.Reordered first second → Option.Rel Value.Reordered third fourth →
          Option.Rel Value.Reordered (first.or third) (second.or fourth) := by
      intro first second third fourth h hnext
      cases h with
      | none => exact hnext
      | some h => exact .some h
    exact hor (hor (hcontext.child? name) (hcaptures.find? name)) (hglobals.find? name)
  unfold resolve?
  split
  · exact .some hcontext
  · split
    · exact .none
    · rename_i first rest _
      split
      · exact .none
      · have hvalue := hroot first
        generalize root? captures globals context first = value? at hvalue
        generalize root? others otherGlobals other first = other? at hvalue
        cases hvalue with
        | none => exact .none
        | some hvalue => exact descend?_reordered hvalue rest

end Path

end BraceTemplate
