import BraceTemplate.Proofs.Number.Integer
import BraceTemplate.Proofs.Value.Equality

/-!
# Equality as a partial equivalence

Equality is symmetric and transitive.  A value equals itself unless a number in
it is no number at all, and then a map equals every map that the same entries
were inserted in, in any order.
-/

namespace BraceTemplate

open Binary64

theorem beq_self_iff_ofFloat_ne_nan {x : Float} : (x == x) = true ↔ ofFloat x ≠ .nan := by
  rw [beq_self_iff, ofFloat_eq_ofUnpacked]
  cases x.toModel.unpack <;> simp [ofUnpacked]

theorem number_beq_symm {x y : Float} (h : (x == y) = true) : (y == x) = true := by
  rw [beq_iff_compareNumbers?] at h ⊢
  rw [compareNumbers?_swap, h]
  rfl

theorem number_beq_trans {x y z : Float} (hxy : (x == y) = true) (hyz : (y == z) = true) :
    (x == z) = true := by
  rw [beq_iff_compareNumbers?]
  exact compareNumbers?_of_beq hxy (number_beq_symm hyz)

theorem Dictionary.names_perm {α β : Type} {d : Dictionary α} {other : Dictionary β}
    (hnames : d.names.Nodup) (hlength : other.length ≤ d.length)
    (hfound : ∀ entry ∈ d, (other.find? entry.1).isSome) : d.names.Perm other.names := by
  have hsubset : d.names ⊆ other.names := by
    intro name hmem
    obtain ⟨entry, hentry, rfl⟩ := List.mem_map.mp hmem
    obtain ⟨value, hvalue⟩ := Option.isSome_iff_exists.mp (hfound entry hentry)
    exact List.mem_map_of_mem (mem_of_find? hvalue)
  refine (List.subperm_of_subset hnames hsubset).perm_of_length_le ?_
  simpa [names] using hlength

namespace Value

variable {H : Type}

/-- The names of every map in a value are different. -/
inductive Distinct : Value H → Prop
  | undefined : Distinct undefined
  | null : Distinct null
  | bool (b : Bool) : Distinct (bool b)
  | number (x : Float) : Distinct (number x)
  | string (s : String) : Distinct (string s)
  | array {items : List (Value H)} (hitems : ∀ item ∈ items, Distinct item) :
      Distinct (array items)
  | map {entries : Dictionary (Value H)} (hnames : entries.names.Nodup)
      (hentries : ∀ entry ∈ entries, Distinct entry.2) : Distinct (map entries)
  | iteration (i : Iteration) : Distinct (iteration i)
  | object (host : H) : Distinct (object host)

inductive HoldsNaN : Value H → Prop
  | number {x : Float} (hnan : ofFloat x = .nan) : HoldsNaN (number x)
  | item {items : List (Value H)} {item : Value H} (hmem : item ∈ items) (hitem : HoldsNaN item) :
      HoldsNaN (array items)
  | entry {entries : Dictionary (Value H)} {entry : String × Value H} (hmem : entry ∈ entries)
      (hentry : HoldsNaN entry.2) : HoldsNaN (map entries)

def IsAtom : Value H → Prop
  | number _ | array _ | map _ => False
  | _ => True

variable [BEq H]

/-! ## What equals a value -/

theorem eq_of_beq_atom [LawfulBEq H] {a b : Value H} (ha : IsAtom a) (h : (a == b) = true) :
    a = b := by
  change equal a b = true at h
  cases a <;> cases b <;> simp_all [equal, IsAtom]

theorem beq_self_of_atom [LawfulBEq H] {a : Value H} (ha : IsAtom a) : (a == a) = true := by
  change equal a a = true
  cases a <;> simp_all [equal, IsAtom]

theorem exists_of_number_beq {x : Float} {b : Value H} (h : (number x == b) = true) :
    ∃ y, b = number y ∧ (x == y) = true := by
  cases b with
  | number y => exact ⟨y, rfl, (beq_number x y).symm.trans h⟩
  | _ => change equal _ _ = true at h; simp [equal] at h

theorem exists_of_array_beq {items : List (Value H)} {b : Value H} (h : (array items == b) = true) :
    ∃ others, b = array others ∧ List.Forall₂ (fun x y => (x == y) = true) items others := by
  cases b with
  | array others => exact ⟨others, rfl, beq_array_iff.mp h⟩
  | _ => change equal _ _ = true at h; simp [equal] at h

theorem exists_of_map_beq {entries : Dictionary (Value H)} {b : Value H}
    (h : (map entries == b) = true) :
    ∃ others : Dictionary (Value H), b = map others ∧ entries.length = others.length ∧
      ∀ entry ∈ entries, ∃ value, others.find? entry.1 = some value ∧
        (entry.2 == value) = true := by
  cases b with
  | map others => exact ⟨others, rfl, beq_map_iff.mp h⟩
  | _ => change equal _ _ = true at h; simp [equal] at h

/-! ## The laws -/

theorem beq_symm [LawfulBEq H] {a b : Value H} (ha : Distinct a) (h : (a == b) = true) :
    (b == a) = true := by
  induction ha generalizing b with
  | undefined | null | bool | string | iteration | object =>
      obtain rfl := eq_of_beq_atom (by trivial) h
      exact h
  | number x =>
      obtain ⟨y, rfl, hxy⟩ := exists_of_number_beq h
      rw [beq_number]
      exact number_beq_symm hxy
  | array _ ih =>
      obtain ⟨others, rfl, hitems⟩ := exists_of_array_beq h
      rw [beq_array_iff]
      refine List.Forall₂.flip ((List.forall₂_and_left _ _).mpr ⟨@ih, hitems⟩ |>.imp ?_)
      exact fun x y hxy => hxy.1 hxy.2
  | @map entries hnames _ ih =>
      obtain ⟨others, rfl, hlength, hfound⟩ := exists_of_map_beq h
      have hperm : entries.names.Perm others.names :=
        Dictionary.names_perm hnames hlength.ge fun entry hmem => by
          obtain ⟨value, hvalue, -⟩ := hfound entry hmem
          rw [hvalue]
          rfl
      rw [beq_map_iff]
      refine ⟨hlength.symm, fun other hother => ?_⟩
      obtain ⟨entry, hentry, hname⟩ :=
        List.mem_map.mp (hperm.mem_iff.mpr (List.mem_map_of_mem hother))
      obtain ⟨value, hvalue, hequal⟩ := hfound entry hentry
      rw [hname, Dictionary.find?_of_mem (hperm.nodup_iff.mp hnames) hother] at hvalue
      obtain rfl := Option.some.inj hvalue
      exact ⟨entry.2, hname ▸ Dictionary.find?_of_mem hnames hentry, ih entry hentry hequal⟩

theorem beq_trans [LawfulBEq H] {a b c : Value H} (ha : Distinct a) (hab : (a == b) = true)
    (hbc : (b == c) = true) : (a == c) = true := by
  induction ha generalizing b c with
  | undefined | null | bool | string | iteration | object =>
      obtain rfl := eq_of_beq_atom (by trivial) hab
      exact hbc
  | number x =>
      obtain ⟨y, rfl, hxy⟩ := exists_of_number_beq hab
      obtain ⟨z, rfl, hyz⟩ := exists_of_number_beq hbc
      rw [beq_number]
      exact number_beq_trans hxy hyz
  | array hdistinct ih =>
      obtain ⟨others, rfl, hitems⟩ := exists_of_array_beq hab
      obtain ⟨last, rfl, hothers⟩ := exists_of_array_beq hbc
      rw [beq_array_iff]
      clear hdistinct hab hbc
      induction hitems generalizing last with
      | nil => exact hothers
      | cons hitem _ ihRest =>
          obtain _ | ⟨hother, hrest⟩ := hothers
          refine .cons (ih _ List.mem_cons_self hitem hother) ?_
          exact ihRest (fun item hmem => ih item (List.mem_cons_of_mem _ hmem)) _ hrest
  | @map entries _ _ ih =>
      obtain ⟨others, rfl, hlength, hfound⟩ := exists_of_map_beq hab
      obtain ⟨last, rfl, hlengthLast, hfoundLast⟩ := exists_of_map_beq hbc
      rw [beq_map_iff]
      refine ⟨hlength.trans hlengthLast, fun entry hentry => ?_⟩
      obtain ⟨value, hvalue, hequal⟩ := hfound entry hentry
      obtain ⟨lastValue, hlast, hequalLast⟩ := hfoundLast _ (Dictionary.mem_of_find? hvalue)
      exact ⟨lastValue, hlast, ih entry hentry hequal hequalLast⟩

theorem beq_self_iff_not_holdsNaN [LawfulBEq H] {a : Value H} (ha : Distinct a) :
    (a == a) = true ↔ ¬ HoldsNaN a := by
  induction ha with
  | undefined | null | bool | string | iteration | object =>
      refine iff_of_true (beq_self_of_atom (by trivial)) ?_
      rintro ⟨⟩
  | number x =>
      rw [beq_number, beq_self_iff_ofFloat_ne_nan]
      refine not_congr ⟨.number, ?_⟩
      rintro ⟨hnan⟩
      exact hnan
  | array _ ih =>
      rw [beq_array_iff, List.forall₂_same]
      constructor
      · rintro hall (_ | ⟨hmem, hitem⟩)
        exact (ih _ hmem).mp (hall _ hmem) hitem
      · exact fun hnot item hmem => (ih item hmem).mpr fun hitem => hnot (.item hmem hitem)
  | map hnames _ ih =>
      rw [beq_map_iff]
      constructor
      · rintro ⟨-, hall⟩ (_ | _ | ⟨hmem, hentry⟩)
        obtain ⟨value, hvalue, hequal⟩ := hall _ hmem
        rw [Dictionary.find?_of_mem hnames hmem] at hvalue
        obtain rfl := Option.some.inj hvalue
        exact (ih _ hmem).mp hequal hentry
      · refine fun hnot => ⟨rfl, fun entry hmem =>
          ⟨entry.2, Dictionary.find?_of_mem hnames hmem, ?_⟩⟩
        exact (ih entry hmem).mpr fun hentry => hnot (.entry hmem hentry)

theorem map_beq_ofList_of_perm [LawfulBEq H] {entries inserted : Dictionary (Value H)}
    (hdistinct : Distinct (map entries)) (hnan : ¬ HoldsNaN (map entries))
    (hperm : inserted.Perm entries) : (map entries == map (Dictionary.ofList inserted)) = true := by
  obtain ⟨-, hself⟩ := beq_map_iff.mp ((beq_self_iff_not_holdsNaN hdistinct).mpr hnan)
  obtain _ | _ | _ | _ | _ | _ | ⟨hnames, -⟩ := hdistinct
  have hinserted : inserted.names.Nodup := (hperm.map Prod.fst).nodup_iff.mpr hnames
  rw [Dictionary.ofList_of_nodup hinserted, beq_map_iff]
  refine ⟨hperm.length_eq.symm, fun entry hmem => ⟨entry.2, ?_, ?_⟩⟩
  · exact Dictionary.find?_of_mem hinserted (hperm.mem_iff.mpr hmem)
  · obtain ⟨value, hvalue, hequal⟩ := hself entry hmem
    rw [Dictionary.find?_of_mem hnames hmem] at hvalue
    rwa [← Option.some.inj hvalue] at hequal

/--
Equality is a partial equivalence: symmetric, transitive, and reflexive where no
number is NaN.  There it does not see in which order the entries of a map were
inserted.
-/
theorem equality_partial_equivalence [LawfulBEq H] {a b c : Value H} (ha : Distinct a) :
    ((a == b) = true → (b == a) = true) ∧
      ((a == b) = true → (b == c) = true → (a == c) = true) ∧
      ((a == a) = true ↔ ¬ HoldsNaN a) ∧
      ∀ entries inserted, a = map entries → ¬ HoldsNaN a → inserted.Perm entries →
        (a == map (Dictionary.ofList inserted)) = true := by
  refine ⟨beq_symm ha, beq_trans ha, beq_self_iff_not_holdsNaN ha, ?_⟩
  rintro entries inserted rfl hnan hperm
  exact map_beq_ofList_of_perm ha hnan hperm

theorem equality_partial_equivalence_nested :
    let a : Value Nat := .map [("p", .map [("x", .number 0.0), ("y", .object 3)]), ("q", .null)]
    let b : Value Nat := .map [("q", .null), ("p", .map [("y", .object 3), ("x", .number (-0.0))])]
    Distinct a ∧ (a == b) = true ∧ (b == a) = true ∧ (a == a) = true ∧ ¬ HoldsNaN a := by
  intro a b
  have hinner : Distinct (.map [("x", .number 0.0), ("y", .object 3)] : Value Nat) := by
    refine .map (by decide) (List.forall_mem_cons.mpr ⟨.number _, ?_⟩)
    exact List.forall_mem_singleton.mpr (.object 3)
  have ha : Distinct a :=
    .map (by decide) (List.forall_mem_cons.mpr ⟨hinner, List.forall_mem_singleton.mpr .null⟩)
  have hab : (a == b) = true := by
    have hzero : ((0.0 : Float) == -0.0) = true := by rfl
    simp [a, b, beq_map_iff, Dictionary.find?_cons, beq_number, hzero, beq_null,
      beq_self_of_atom (a := object 3) (by trivial)]
  obtain ⟨hsymm, htrans, hself, -⟩ := equality_partial_equivalence (b := b) (c := a) ha
  have haa : (a == a) = true := htrans hab (hsymm hab)
  exact ⟨ha, hab, hsymm hab, haa, hself.mp haa⟩

end Value

end BraceTemplate
