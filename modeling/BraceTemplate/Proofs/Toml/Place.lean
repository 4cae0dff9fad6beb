import BraceTemplate.Proofs.Toml.Value

/-!
# Places of tables

Lines go to the table that was opened last.  A place says where in a document this
table is and what stands there already; to change the table is to fill the place
differently.
-/

namespace BraceTemplate.Toml

open Dictionary (names)

namespace Table

def headed (entries : Dictionary Node) : Table := ⟨false, false, entries⟩

theorem update?_append (dotted : Bool) (change : Table → Option Table) (first second : List String)
    (t : Table) :
    update? dotted change (first ++ second) t =
      update? dotted (fun target => update? dotted change second target) first t := by
  induction first generalizing t with
  | nil => rfl
  | cons key first ih =>
      rw [List.cons_append, update?, update?]
      simp only [ih]

theorem update?_table {change : Table → Option Table} {entries changed before : Dictionary Node}
    {key : String} (h : change (headed entries) = some (headed changed))
    (hkey : key ∉ names before) :
    update? false change [key] (headed (before ++ [(key, .table false false entries)])) =
      some (headed (before ++ [(key, .table false false changed)])) := by
  simp only [headed] at h
  simp [update?, headed, ← Dictionary.insert_of_not_mem hkey, Dictionary.find?_insert, h,
    Dictionary.insert_insert, toNode]

theorem update?_element {change : Table → Option Table} {entries changed before : Dictionary Node}
    {key : String} (h : change (headed entries) = some (headed changed)) (hkey : key ∉ names before)
    (done : List (Dictionary Node)) :
    update? false change [key] (headed (before ++ [(key, .tables (entries :: done))])) =
      some (headed (before ++ [(key, .tables (changed :: done))])) := by
  simp only [headed] at h
  simp [update?, headed, ← Dictionary.insert_of_not_mem hkey, Dictionary.find?_insert, h,
    Dictionary.insert_insert]

end Table

inductive Place where
  | root
  | table (outer : Place) (before : Dictionary Node) (key : String) (hkey : key ∉ names before)
  /-- The last element of an array of tables, whose other elements are in reverse. -/
  | element (outer : Place) (before : Dictionary Node) (key : String) (hkey : key ∉ names before)
      (done : List (Dictionary Node))

namespace Place

def path : Place → List String
  | root => []
  | table outer _ key _ => outer.path ++ [key]
  | element outer _ key _ _ => outer.path ++ [key]

def fill : Place → Dictionary Node → Dictionary Node
  | root, entries => entries
  | table outer before key _, entries => outer.fill (before ++ [(key, .table false false entries)])
  | element outer before key _ done, entries =>
      outer.fill (before ++ [(key, .tables (entries :: done))])

theorem update?_fill (place : Place) {change : Table → Option Table}
    {entries changed : Dictionary Node}
    (h : change (Table.headed entries) = some (Table.headed changed)) :
    Table.update? false change place.path (Table.headed (place.fill entries)) =
      some (Table.headed (place.fill changed)) := by
  induction place generalizing change entries changed with
  | root => exact h
  | table outer before key hkey ih =>
      rw [path, Table.update?_append]
      exact ih (Table.update?_table h hkey)
  | element outer before key hkey done ih =>
      rw [path, Table.update?_append]
      exact ih (Table.update?_element h hkey done)

variable (place : Place) {before entries : Dictionary Node} {key : String}

theorem assign?_fill (hkey : key ∉ names entries) (document : Json) :
    Table.update? false (Table.assign? [] key document) place.path
      (Table.headed (place.fill entries)) =
      some (Table.headed (place.fill (entries ++ [(key, .value document)]))) :=
  place.update?_fill (Table.assign?_of_not_mem hkey document)

theorem openTable?_fill (hkey : key ∉ names before) :
    Table.openTable? place.path key (Table.headed (place.fill before)) =
      some (Table.headed ((table place before key hkey).fill [])) := by
  refine place.update?_fill ?_
  simp [Table.headed, Dictionary.find?_of_not_mem hkey, Dictionary.insert_of_not_mem hkey]

theorem openElement?_fill_first (hkey : key ∉ names before) :
    Table.openElement? place.path key (Table.headed (place.fill before)) =
      some (Table.headed ((element place before key hkey []).fill [])) := by
  refine place.update?_fill ?_
  simp [Table.headed, Dictionary.find?_of_not_mem hkey, Dictionary.insert_of_not_mem hkey]

theorem openElement?_fill (hkey : key ∉ names before) (done : List (Dictionary Node)) :
    Table.openElement? place.path key
      (Table.headed ((element place before key hkey done).fill entries)) =
      some (Table.headed ((element place before key hkey (entries :: done)).fill [])) := by
  refine place.update?_fill ?_
  simp [Table.headed, ← Dictionary.insert_of_not_mem hkey, Dictionary.find?_insert,
    Dictionary.insert_insert]

end Place

end BraceTemplate.Toml
