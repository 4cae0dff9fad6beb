import BraceTemplate.Toml.Writer
import Mathlib.Data.List.Forall2

/-!
# Documents that can be written

A table is written part by part, and it has a text only if all its parts have one.
-/

namespace BraceTemplate.Toml

/-! ## The parts of a table -/

theorem mapM_eq_some_iff {α β : Type} {f : α → Option β} {items : List α} {results : List β} :
    items.mapM f = some results ↔
      List.Forall₂ (fun item result => f item = some result) items results := by
  induction items generalizing results with
  | nil => simp [eq_comm]
  | cons item rest ih =>
      rw [List.mapM_cons, List.forall₂_cons_left_iff]
      simp only [Option.bind_eq_bind, Option.bind_eq_some_iff, Option.pure_def, Option.some_inj, ih]
      constructor
      · rintro ⟨result, hresult, more, hmore, rfl⟩
        exact ⟨result, more, hresult, hmore, rfl⟩
      · rintro ⟨result, more, hresult, hmore, rfl⟩
        exact ⟨result, hresult, more, hmore, rfl⟩

theorem forall₂_of_mapM {α β : Type} {f : α → Option β} {items : List α} {results : List β}
    (h : items.mapM f = some results) {related : α → β → Prop}
    (hrelated : ∀ item ∈ items, ∀ result, f item = some result → related item result) :
    List.Forall₂ related items results := by
  induction mapM_eq_some_iff.mp h with
  | nil => exact .nil
  | cons hfirst hrest ih =>
      obtain ⟨hitem, hitems⟩ := List.forall_mem_cons.mp hrelated
      exact .cons (hitem _ hfirst) (ih (mapM_eq_some_iff.mpr hrest) hitems)

theorem writeItems?_eq_mapM (items : List Json) : writeItems? items = items.mapM writeValue? := by
  induction items with
  | nil => rfl
  | cons item rest ih => rw [writeItems?, List.mapM_cons, ih]; rfl

def writeAssignment? (member : String × Json) : Option String :=
  (writeValue? member.2).map fun written => writeKey member.1 ++ " = " ++ written

theorem writeMembers?_eq_mapM (members : Dictionary Json) :
    writeMembers? members = members.mapM writeAssignment? := by
  induction members with
  | nil => rfl
  | cons member rest ih =>
      rw [writeMembers?, List.mapM_cons, ih, writeAssignment?]
      cases writeValue? member.2 <;> rfl

def sectionLines? (path : List String) : Json → Option (List String)
  | .object members =>
      (tableLines? path (.object members)).map fun lines => tableHeader path :: lines
  | .array items => if hasHeader (.array items) then elementLines? path items else some []
  | _ => some []

theorem headedLines?_eq_mapM (path : List String) (members : Dictionary Json) :
    headedLines? path members =
      (members.mapM fun member =>
        sectionLines? (path ++ [member.1]) member.2).map List.flatten := by
  induction members with
  | nil => rfl
  | cons member rest ih =>
      obtain ⟨name, document⟩ := member
      rw [List.mapM_cons]
      cases document with
      | object members =>
          rw [headedLines?, ih, sectionLines?, tableLines?]
          cases assignmentLines? members <;> cases headedLines? (path ++ [name]) members <;>
            cases rest.mapM fun member => sectionLines? (path ++ [member.1]) member.2 <;> simp
      | array items =>
          rw [headedLines?, ih, sectionLines?]
          split
          · cases elementLines? (path ++ [name]) items <;>
              cases rest.mapM fun member => sectionLines? (path ++ [member.1]) member.2 <;> simp
          · cases rest.mapM fun member => sectionLines? (path ++ [member.1]) member.2 <;> simp
      | null | bool | integer | float | string =>
          rw [headedLines?, ih, sectionLines?]
          · cases rest.mapM fun member => sectionLines? (path ++ [member.1]) member.2 <;> simp
          all_goals simp

def elementSection? (path : List String) (item : Json) : Option (List String) :=
  (tableLines? path item).map fun lines => elementHeader path :: lines

theorem elementLines?_eq_mapM (path : List String) (items : List Json) :
    elementLines? path items = (items.mapM (elementSection? path)).map List.flatten := by
  induction items with
  | nil => rfl
  | cons item rest ih =>
      rw [elementLines?, List.mapM_cons, ih, elementSection?]
      cases tableLines? path item <;> cases rest.mapM (elementSection? path) <;> simp

theorem tableLines?_eq_some_iff {path : List String} {members : Dictionary Json}
    {lines : List String} :
    tableLines? path (.object members) = some lines ↔ ∃ assignments sections,
      (members.filter fun member => !hasHeader member.2).mapM writeAssignment? = some assignments ∧
      (members.mapM fun member => sectionLines? (path ++ [member.1]) member.2) = some sections ∧
      lines = assignments ++ sections.flatten := by
  rw [tableLines?, assignmentLines?, writeMembers?_eq_mapM, headedLines?_eq_mapM]
  simp only [Option.bind_eq_bind, Option.bind_eq_some_iff, Option.map_eq_some_iff, Option.some_inj]
  constructor
  · rintro ⟨assignments, hassignments, _, ⟨sections, hsections, rfl⟩, rfl⟩
    exact ⟨assignments, sections, hassignments, hsections, rfl⟩
  · rintro ⟨assignments, sections, hassignments, hsections, rfl⟩
    exact ⟨assignments, hassignments, _, ⟨sections, hsections, rfl⟩, rfl⟩

end BraceTemplate.Toml
