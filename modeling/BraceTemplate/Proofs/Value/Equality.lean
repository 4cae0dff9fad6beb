import BraceTemplate.Proofs.Dictionary
import BraceTemplate.Value.Equality
import Mathlib.Data.List.Forall2

/-!
# Laws of equality

Arrays are equal item by item.  Maps are equal if they are of one size and what
one of them has under a name equals what the other has under it.
-/

namespace BraceTemplate.Value

variable {H : Type} [BEq H]

theorem beq_null : ((null : Value H) == null) = true := by
  change equal _ _ = _
  rw [equal]

theorem beq_bool (a b : Bool) : ((bool a : Value H) == bool b) = (a == b) := by
  change equal _ _ = _
  rw [equal]

theorem beq_string (s t : String) : ((string s : Value H) == string t) = (s == t) := by
  change equal _ _ = _
  rw [equal]

theorem beq_number (x y : Float) : ((number x : Value H) == number y) = (x == y) := by
  change equal _ _ = _
  rw [equal]

theorem beq_array_iff {xs ys : List (Value H)} :
    (array xs == array ys) = true ↔ List.Forall₂ (fun x y => (x == y) = true) xs ys := by
  change equal _ _ = true ↔ _
  rw [equal, List.forall₂_iff_zip]
  simp only [Bool.and_eq_true, beq_iff_eq, List.all_eq_true, List.mem_attach, true_implies,
    Subtype.forall, Prod.forall]
  rfl

theorem beq_map_iff {xs ys : Dictionary (Value H)} :
    (map xs == map ys) = true ↔ xs.length = ys.length ∧
      ∀ entry ∈ xs, ∃ value, ys.find? entry.1 = some value ∧ (entry.2 == value) = true := by
  change equal _ _ = true ↔ _
  rw [equal]
  simp only [Bool.and_eq_true, beq_iff_eq, List.all_eq_true, List.mem_attach, true_implies,
    Subtype.forall, Option.any_eq_true]
  rfl

end BraceTemplate.Value
