import BraceTemplate.Filter.Measure

/-!
# The order of numbers

Two numbers are ordered in exactly one way, unless one of them is not a number:
then in none.  The others stand on one line: by their side of zero, and on a side
by exponent and mantissa.
-/

namespace BraceTemplate

open Float.Model (UnpackedFloat)

namespace Binary64

def place : UnpackedFloat → Int × Int × Int
  | .infinity .negative => (-2, 0, 0)
  | .finite .negative mantissa exponent _ => (-1, -exponent, -mantissa)
  | .zero _ | .notANumber => (0, 0, 0)
  | .finite .positive mantissa exponent _ => (1, exponent, mantissa)
  | .infinity .positive => (2, 0, 0)

def comparePlaces : Int × Int × Int → Int × Int × Int → Ordering :=
  compareLex (compareOn fun place => place.1)
    (compareLex (compareOn fun place => place.2.1) (compareOn fun place => place.2.2))

instance : Std.TransCmp comparePlaces := by
  unfold comparePlaces
  infer_instance

section Unpacked

variable {x y : UnpackedFloat}

theorem compare_eq_comparePlaces (hx : x ≠ .notANumber) (hy : y ≠ .notANumber) :
    UnpackedFloat.compare x y = some (comparePlaces (place x) (place y)) := by
  have hcast : ∀ m n : Nat, compare (m : Int) (n : Int) = compare m n := by
    intro m n
    simp only [compare, compareOfLessAndEq, Int.ofNat_lt, Int.ofNat_inj]
  have hneg : ∀ a b : Int, compare (-a) (-b) = compare b a := by
    intro a b
    simp [compare, compareOfLessAndEq, eq_comm]
  cases x with
  | notANumber => exact absurd rfl hx
  | infinity s =>
      cases y with
      | notANumber => exact absurd rfl hy
      | infinity t => cases s <;> cases t <;> rfl
      | zero t => cases s <;> rfl
      | finite t n f _ => cases s <;> cases t <;> rfl
  | zero s =>
      cases y with
      | notANumber => exact absurd rfl hy
      | infinity t => cases t <;> rfl
      | zero t => rfl
      | finite t n f _ => cases t <;> rfl
  | finite s m e _ =>
      cases y with
      | notANumber => exact absurd rfl hy
      | infinity t => cases s <;> cases t <;> rfl
      | zero t => cases s <;> rfl
      | finite t n f _ =>
          cases s with
          | positive =>
              cases t with
              | positive =>
                  change _ = some ((compare e f).then (compare (m : Int) n))
                  rw [hcast]
                  rfl
              | negative => rfl
          | negative =>
              cases t with
              | positive => rfl
              | negative =>
                  change _ = some ((compare (-e) (-f)).then (compare (-m : Int) (-n)))
                  rw [hneg, hneg, hcast, Std.OrientedOrd.eq_swap (a := f),
                    Std.OrientedOrd.eq_swap (a := n), ← Ordering.swap_then]
                  rfl

theorem compare_notANumber (h : x = .notANumber ∨ y = .notANumber) :
    UnpackedFloat.compare x y = none := by
  rcases h with rfl | rfl
  · rfl
  · cases x <;> rfl

theorem compare_swap (x y : UnpackedFloat) :
    UnpackedFloat.compare y x = (UnpackedFloat.compare x y).map Ordering.swap := by
  by_cases h : x = .notANumber ∨ y = .notANumber
  · rw [compare_notANumber h, compare_notANumber h.symm]
    rfl
  · obtain ⟨hx, hy⟩ := not_or.mp h
    rw [compare_eq_comparePlaces hx hy, compare_eq_comparePlaces hy hx, Option.map_some,
      ← Std.OrientedCmp.eq_swap]

end Unpacked

variable (x y : Float)

theorem lt_iff_compare :
    x < y ↔ UnpackedFloat.compare x.toModel.unpack y.toModel.unpack = some .lt := by
  rw [← beq_iff_eq]
  exact decide_eq_true_iff

theorem beq_iff_compare :
    (x == y) = true ↔ UnpackedFloat.compare x.toModel.unpack y.toModel.unpack = some .eq := by
  change (UnpackedFloat.compare x.toModel.unpack y.toModel.unpack == some .eq) = true ↔ _
  exact beq_iff_eq

theorem le_iff_compare :
    x ≤ y ↔ (UnpackedFloat.compare x.toModel.unpack y.toModel.unpack).any Ordering.isLE = true :=
  decide_eq_true_iff

end Binary64

open Binary64

variable (x y : Float)

theorem compareNumbers?_eq_compare :
    compareNumbers? x y = UnpackedFloat.compare x.toModel.unpack y.toModel.unpack := by
  unfold compareNumbers?
  simp only [lt_iff_compare, beq_iff_compare, compare_swap x.toModel.unpack y.toModel.unpack]
  rcases UnpackedFloat.compare x.toModel.unpack y.toModel.unpack with _ | _ | _ | _ <;> rfl

theorem compareNumbers?_swap : compareNumbers? y x = (compareNumbers? x y).map Ordering.swap := by
  rw [compareNumbers?_eq_compare, compareNumbers?_eq_compare, compare_swap]

theorem le_iff_compareNumbers? : x ≤ y ↔ (compareNumbers? x y).any Ordering.isLE = true := by
  rw [compareNumbers?_eq_compare, le_iff_compare]

theorem beq_iff_compareNumbers? : (x == y) = true ↔ compareNumbers? x y = some .eq := by
  rw [compareNumbers?_eq_compare, beq_iff_compare]

theorem any_ne_gt_compareNumbers? : (compareNumbers? x y).any (· != .gt) = decide (x ≤ y) := by
  rw [Bool.eq_iff_iff, decide_eq_true_iff, le_iff_compareNumbers?]
  rcases compareNumbers? x y with _ | _ | _ | _ <;> decide

theorem any_ne_lt_compareNumbers? : (compareNumbers? x y).any (· != .lt) = decide (y ≤ x) := by
  rw [← any_ne_gt_compareNumbers?, compareNumbers?_swap x y]
  rcases compareNumbers? x y with _ | _ | _ | _ <;> rfl

/-! ## Numbers that are numbers -/

theorem beq_self_iff : (x == x) = true ↔ x.toModel.unpack ≠ .notANumber := by
  rw [beq_iff_compare]
  constructor
  · intro h hnan
    rw [compare_notANumber (.inl hnan)] at h
    cases h
  · intro h
    rw [compare_eq_comparePlaces h h]
    exact congrArg some Std.ReflCmp.compare_self

def compareOnLine : Float → Float → Ordering :=
  fun x y => comparePlaces (place x.toModel.unpack) (place y.toModel.unpack)

instance : Std.TransCmp compareOnLine where
  eq_swap := (inferInstance : Std.OrientedCmp comparePlaces).eq_swap
  isLE_trans := (inferInstance : Std.TransCmp comparePlaces).isLE_trans

theorem compareNumbers?_eq_some {x y : Float} (hx : (x == x) = true) (hy : (y == y) = true) :
    compareNumbers? x y = some (compareOnLine x y) := by
  rw [beq_self_iff] at hx hy
  rw [compareNumbers?_eq_compare, compare_eq_comparePlaces hx hy]
  rfl

theorem compareNumbers?_eq_none {x y : Float} (h : (x == x) = false ∨ (y == y) = false) :
    compareNumbers? x y = none := by
  have hnan : ∀ z : Float, (z == z) = false → z.toModel.unpack = .notANumber := by
    intro z hz
    simpa [hz] using beq_self_iff z
  rw [compareNumbers?_eq_compare]
  exact compare_notANumber (h.imp (hnan x) (hnan y))

theorem beq_self_of_beq {x y : Float} (h : (x == y) = true) :
    (x == x) = true ∧ (y == y) = true := by
  rw [beq_iff_compareNumbers?] at h
  have hnumbers : ¬ ((x == x) = false ∨ (y == y) = false) := by
    intro hnan
    rw [compareNumbers?_eq_none hnan] at h
    cases h
  simpa using hnumbers

theorem compareNumbers?_of_beq {x y z : Float} (hx : (x == z) = true) (hy : (y == z) = true) :
    compareNumbers? x y = some .eq := by
  obtain ⟨hxx, hzz⟩ := beq_self_of_beq hx
  obtain ⟨hyy, -⟩ := beq_self_of_beq hy
  rw [beq_iff_compareNumbers?, compareNumbers?_eq_some hxx hzz] at hx
  rw [beq_iff_compareNumbers?, compareNumbers?_eq_some hyy hzz] at hy
  have hzy : compareOnLine z y = .eq := Std.OrientedCmp.eq_symm (Option.some.inj hy)
  rw [compareNumbers?_eq_some hxx hyy, Std.TransCmp.eq_trans (Option.some.inj hx) hzy]

end BraceTemplate
