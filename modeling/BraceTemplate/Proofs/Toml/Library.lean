import BraceTemplate.Proofs.Json.Sorted
import BraceTemplate.Proofs.Number.Integer
import BraceTemplate.Toml.Library

/-!
# What is assumed of a TOML library

Reading inverts writing on what TOML has a form for, as far as documents are not nested
deeper than the library reads.  The order of the members of a table is not kept: they are
read in the order of their names.
-/

namespace BraceTemplate

def Json.depth : Json → Nat
  | .null | .bool _ | .integer _ | .float _ | .string _ => 0
  | .array items => (items.map depth).foldr max 0 + 1
  | .object members => (members.map fun member => depth member.2).foldr max 0 + 1
termination_by document => document
decreasing_by
  · have := List.sizeOf_lt_of_mem ‹_›
    simp only [Json.array.sizeOf_spec]
    omega
  · have := Dictionary.sizeOf_snd_lt ‹_›
    simp only [Json.object.sizeOf_spec]
    omega

theorem le_foldr_max {n : Nat} {counts : List Nat} (h : n ∈ counts) : n ≤ counts.foldr max 0 := by
  induction counts with
  | nil => cases h
  | cons first rest ih =>
      rcases List.mem_cons.mp h with rfl | hmem
      · exact Nat.le_max_left _ _
      · exact (ih hmem).trans (Nat.le_max_right _ _)

theorem foldr_max_le {bound : Nat} {counts : List Nat} (h : ∀ n ∈ counts, n ≤ bound) :
    counts.foldr max 0 ≤ bound := by
  induction counts with
  | nil => exact Nat.zero_le _
  | cons first rest ih =>
      obtain ⟨hfirst, hrest⟩ := List.forall_mem_cons.mp h
      exact Nat.max_le.mpr ⟨hfirst, ih hrest⟩

theorem Json.depth_lt_array {items : List Json} {item : Json} (h : item ∈ items) :
    item.depth < (Json.array items).depth := by
  rw [Json.depth.eq_def (.array items)]
  exact Nat.lt_succ_of_le (le_foldr_max (List.mem_map_of_mem h))

theorem Json.depth_lt_object {members : Dictionary Json} {member : String × Json}
    (h : member ∈ members) : member.2.depth < (Json.object members).depth := by
  rw [Json.depth.eq_def (.object members)]
  exact Nat.lt_succ_of_le (le_foldr_max (List.mem_map_of_mem (f := fun member => depth member.2) h))

namespace Toml

open Dictionary (names)

/-- No null, integers of 64 bits, finite numbers, and in no table one name twice. -/
inductive Exact : Json → Prop
  | bool (b : Bool) : Exact (.bool b)
  | integer {n : Int} (hlow : -2 ^ 63 ≤ n) (hhigh : n < 2 ^ 64) : Exact (.integer n)
  | float {x : Float} (hfinite : (Binary64.ofFloat x).isFinite = true) : Exact (.float x)
  | string (s : String) : Exact (.string s)
  | array {items : List Json} (hitems : ∀ item ∈ items, Exact item) : Exact (.array items)
  | object {members : Dictionary Json} (hnames : (names members).Nodup)
      (hmembers : ∀ member ∈ members, Exact member.2) : Exact (.object members)

/-- Reading inverts writing on documents that are nested no deeper than `depth`. -/
def Library.Inverts [Library] (depth : Nat) : Prop :=
  ∀ document text, Exact document → document.depth ≤ depth → Library.write? document = some text →
    Library.read? text = some document.sorted

end Toml

end BraceTemplate
