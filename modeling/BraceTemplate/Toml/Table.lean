import BraceTemplate.Json.Basic

/-!
# Tables of a TOML document

While a document is read, a table remembers how it came to be: whether a header
or an assignment only passed through it, and whether that was an assignment.
This decides what may still be added to it.
-/

namespace BraceTemplate.Toml

inductive Node where
  /-- A value that is complete: nothing can be added to it. -/
  | value (document : Json)
  /-- A table; `implicit` if it was only passed through, `dotted` if by an assignment. -/
  | table (implicit dotted : Bool) (entries : List (String × Node))
  /-- An array of tables that headers add to, each by its entries, the last one first. -/
  | tables (items : List (List (String × Node)))
  deriving Inhabited

namespace Node

def toJson : Node → Json
  | value document => document
  | table _ _ entries => Json.ofMembers (entries.map fun entry => (entry.1, toJson entry.2))
  | tables items =>
      .array (items.reverse.map fun entries =>
        Json.ofMembers (entries.map fun entry => (entry.1, toJson entry.2)))
termination_by node => node
decreasing_by
  · have := Dictionary.sizeOf_snd_lt ‹_›
    simp only [Node.table.sizeOf_spec]
    omega
  · have := List.sizeOf_lt_of_mem ‹entries ∈ items›
    have := Dictionary.sizeOf_snd_lt ‹entry ∈ entries›
    simp only [Node.tables.sizeOf_spec]
    omega

end Node

structure Table where
  implicit : Bool
  dotted : Bool
  entries : Dictionary Node

namespace Table

def root : Table := ⟨false, false, []⟩

def toNode (t : Table) : Node := .table t.implicit t.dotted t.entries

def toJson (t : Table) : Json := t.toNode.toJson

/--
Changes the table at the end of a path.  Missing tables are made on the way,
and of an array of tables the last one is taken.  A path in an assignment does
not lead through tables that have a header.
-/
def update? (dotted : Bool) (change : Table → Option Table) : List String → Table → Option Table
  | [], t => change t
  | key :: path, t =>
      match t.entries.find? key with
      | none => do
          let child ← update? dotted change path ⟨true, dotted, []⟩
          some { t with entries := t.entries.insert key child.toNode }
      | some (.table implicit wasDotted entries) =>
          if dotted && !implicit then none
          else do
            let child ← update? dotted change path ⟨implicit, wasDotted, entries⟩
            some { t with entries := t.entries.insert key child.toNode }
      | some (.tables (last :: before)) => do
          let child ← update? dotted change path ⟨false, false, last⟩
          some { t with entries := t.entries.insert key (.tables (child.entries :: before)) }
      | some _ => none

def assign? (path : List String) (key : String) (document : Json) (t : Table) : Option Table :=
  update? true
    (fun target =>
      if target.dotted == path.isEmpty || target.entries.contains key then none
      else some { target with entries := target.entries.insert key (.value document) })
    path t

def openTable? (path : List String) (key : String) (t : Table) : Option Table :=
  update? false
    (fun parent =>
      match parent.entries.find? key with
      | none => some { parent with entries := parent.entries.insert key (.table false false []) }
      | some (.table true false entries) =>
          some { parent with entries := parent.entries.insert key (.table false false entries) }
      | some _ => none)
    path t

def openElement? (path : List String) (key : String) (t : Table) : Option Table :=
  update? false
    (fun parent =>
      match parent.entries.find? key with
      | none => some { parent with entries := parent.entries.insert key (.tables [[]]) }
      | some (.tables items) =>
          some { parent with entries := parent.entries.insert key (.tables ([] :: items)) }
      | some _ => none)
    path t

end Table

end BraceTemplate.Toml
