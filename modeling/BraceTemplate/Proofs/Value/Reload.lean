import BraceTemplate.Proofs.Json.Members
import BraceTemplate.Proofs.Number.Integer
import BraceTemplate.Proofs.Value.Equality
import BraceTemplate.Value.Json

/-!
# Values that went through JSON

What cannot be written as JSON is replaced when a value is written; everything
else comes back equal.  The entries of a map may come back in another order, but
none is lost, and the order does not matter for equality.
-/

namespace BraceTemplate

open Binary64

namespace Value

variable {H : Type}

/-- The names of a map are different, and positions in loops are machine words. -/
inductive WellFormed : Value H → Prop
  | undefined : WellFormed undefined
  | null : WellFormed null
  | bool (b : Bool) : WellFormed (bool b)
  | number (x : Float) : WellFormed (number x)
  | string (s : String) : WellFormed (string s)
  | array {items : List (Value H)} (hitems : ∀ item ∈ items, WellFormed item) :
      WellFormed (array items)
  | map {entries : Dictionary (Value H)} (hnames : entries.names.Nodup)
      (hentries : ∀ entry ∈ entries, WellFormed entry.2) : WellFormed (map entries)
  | iteration {i : Iteration} (hposition : i.position < 2 ^ 64) : WellFormed (iteration i)
  | object (host : H) : WellFormed (object host)

inductive Plain : Value H → Prop
  | null : Plain null
  | bool (b : Bool) : Plain (bool b)
  | number {x : Float} (hfinite : (ofFloat x).isFinite = true) : Plain (number x)
  | string (s : String) : Plain (string s)
  | array {items : List (Value H)} (hitems : ∀ item ∈ items, Plain item) : Plain (array items)
  | map {entries : Dictionary (Value H)} (hnames : entries.names.Nodup)
      (hentries : ∀ entry ∈ entries, Plain entry.2) : Plain (map entries)

theorem Plain.wellFormed {value : Value H} (h : Plain value) : WellFormed value := by
  induction h with
  | null => exact .null
  | bool b => exact .bool b
  | number _ => exact .number _
  | string s => exact .string s
  | array _ ih => exact .array ih
  | map hnames _ ih => exact .map hnames ih

variable [HostObject H]

/--
The value with everything replaced that JSON has no form for: by null, by the
number of a position or by the text that a host object displays.
-/
def normalized : Value H → Value H
  | undefined | null => null
  | bool b => bool b
  | number x => if (ofFloat x).isFinite then number x else null
  | string s => string s
  | array items => array (items.map normalized)
  | map entries => map (entries.map fun entry => (entry.1, normalized entry.2))
  | iteration i => ofIndex i.position
  | object host => string (HostObject.display host)
termination_by value => value
decreasing_by
  · have := List.sizeOf_lt_of_mem ‹_›
    simp only [Value.array.sizeOf_spec]
    omega
  · have := Dictionary.sizeOf_snd_lt ‹_›
    simp only [Value.map.sizeOf_spec]
    omega

theorem Plain.normalized_eq {value : Value H} (h : Plain value) : normalized value = value := by
  induction h with
  | null => rw [normalized]
  | bool b => rw [normalized]
  | number hfinite => rw [normalized, if_pos hfinite]
  | string s => rw [normalized]
  | array _ ih => rw [normalized, List.map_congr_left ih, List.map_id']
  | @map entries _ _ ih =>
      have hentries : entries.map (fun entry => (entry.1, normalized entry.2)) = entries.map id :=
        List.map_congr_left fun entry hmem => congrArg (Prod.mk entry.1) (ih entry hmem)
      rw [normalized, hentries, List.map_id]

/-! ## What comes back -/

theorem reload_array (items : List (Value H)) :
    reload (array items) = array (items.map reload) := by
  rw [reload, toJson, ofJson, List.map_map]
  rfl

theorem exists_reload_map {entries : Dictionary (Value H)} (hnames : entries.names.Nodup) :
    ∃ members, reload (map entries) = map members ∧
      members.Perm (entries.map fun entry => (entry.1, reload entry.2)) := by
  have hdocuments :
      (Dictionary.names (entries.map fun entry => (entry.1, toJson entry.2))).Nodup := by
    rwa [Dictionary.names_map]
  obtain ⟨sorted, hsorted, hperm⟩ := Json.exists_ofMembers_perm hdocuments
  refine ⟨sorted.map fun entry => (entry.1, ofJson entry.2), ?_, ?_⟩
  · rw [reload, toJson, hsorted, ofJson]
  · have hvalues := hperm.map fun entry => (entry.1, (ofJson entry.2 : Value H))
    rwa [List.map_map] at hvalues

theorem reload_number_of_finite {x : Float} (h : (ofFloat x).isFinite = true) :
    ∃ y, reload (number x : Value H) = number y ∧ (y == x) = true := by
  rw [reload, toJson, numberToJson]
  split
  · rename_i hinteger
    obtain ⟨hintegral, -⟩ := Bool.and_eq_true_iff.mp hinteger
    exact ⟨_, by rw [ofJson], ofInt_truncate_beq hintegral⟩
  · cases hexact : ofFloat x with
    | finite negative mantissa exponent => exact ⟨x, by rw [ofJson], beq_self_of_isFinite h⟩
    | nan => simp [hexact, isFinite] at h
    | infinite negative => simp [hexact, isFinite] at h

theorem toJson_number_of_not_finite {x : Float} (h : (ofFloat x).isFinite = false) :
    toJson (number x : Value H) = .null := by
  have hinteger : (ofFloat x).isIntegral = false := by
    by_contra hintegral
    rw [isFinite_of_isIntegral ((Bool.not_eq_false _).mp hintegral)] at h
    cases h
  rw [toJson, numberToJson, hinteger]
  cases hexact : ofFloat x with
  | finite negative mantissa exponent => simp [hexact, isFinite] at h
  | nan => rfl
  | infinite negative => rfl

theorem reload_number_of_not_finite {x : Float} (h : (ofFloat x).isFinite = false) :
    reload (number x : Value H) = null := by
  rw [reload, toJson_number_of_not_finite h, ofJson]

theorem reload_iteration (i : Iteration) : reload (iteration i : Value H) = ofIndex i.position := by
  rw [reload, toJson, ofJson]
  rfl

theorem WellFormed.plain_reload {value : Value H} (h : WellFormed value) :
    Plain (reload value) := by
  induction h with
  | undefined => rw [reload, toJson, ofJson]; exact .null
  | null => rw [reload, toJson, ofJson]; exact .null
  | bool b => rw [reload, toJson, ofJson]; exact .bool b
  | number x =>
      cases hfinite : (ofFloat x).isFinite with
      | true =>
          obtain ⟨y, hy, hbeq⟩ := reload_number_of_finite (H := H) hfinite
          rw [hy]
          exact .number (isFinite_of_beq hbeq hfinite)
      | false =>
          rw [reload_number_of_not_finite hfinite]
          exact .null
  | string s => rw [reload, toJson, ofJson]; exact .string s
  | array _ ih =>
      rw [reload_array]
      exact .array (List.forall_mem_map.mpr ih)
  | map hnames _ ih =>
      obtain ⟨members, hmembers, hperm⟩ := exists_reload_map hnames
      rw [hmembers]
      refine .map ?_ fun member hmem => ?_
      · have hentries := (Dictionary.names_map (reload (H := H)) _).symm ▸ hnames
        exact (hperm.map Prod.fst).nodup_iff.mpr hentries
      · obtain ⟨entry, hentry, rfl⟩ := List.mem_map.mp (hperm.mem_iff.mp hmem)
        exact ih entry hentry
  | iteration hposition =>
      rw [reload_iteration]
      exact .number (isFinite_ofNat hposition)
  | object host => rw [reload, toJson, ofJson]; exact .string _

variable [BEq H]

theorem WellFormed.reload_beq {value : Value H} (h : WellFormed value) :
    (reload value == normalized value) = true := by
  induction h with
  | undefined => rw [reload, toJson, ofJson, normalized, beq_null]
  | null => rw [reload, toJson, ofJson, normalized, beq_null]
  | bool b => rw [reload, toJson, ofJson, normalized, beq_bool, beq_self_eq_true]
  | number x =>
      rw [normalized]
      cases hfinite : (ofFloat x).isFinite with
      | true =>
          obtain ⟨y, hy, hbeq⟩ := reload_number_of_finite (H := H) hfinite
          rw [hy, if_pos rfl, beq_number, hbeq]
      | false =>
          rw [reload_number_of_not_finite hfinite]
          exact beq_null
  | string s => rw [reload, toJson, ofJson, normalized, beq_string, beq_self_eq_true]
  | array _ ih =>
      rw [reload_array, normalized, beq_array_iff, List.forall₂_map_left_iff,
        List.forall₂_map_right_iff]
      exact List.forall₂_same.mpr ih
  | @map entries hnames _ ih =>
      obtain ⟨members, hmembers, hperm⟩ := exists_reload_map hnames
      have hnormalized : (Dictionary.names
          (entries.map fun entry => (entry.1, normalized entry.2))).Nodup := by
        rwa [Dictionary.names_map]
      rw [hmembers, normalized, beq_map_iff]
      refine ⟨by simp [hperm.length_eq], fun member hmem => ?_⟩
      obtain ⟨entry, hentry, rfl⟩ := List.mem_map.mp (hperm.mem_iff.mp hmem)
      exact ⟨normalized entry.2,
        Dictionary.find?_of_mem hnormalized (List.mem_map_of_mem hentry), ih entry hentry⟩
  | iteration hposition =>
      rw [reload_iteration, normalized, ofIndex, beq_number]
      exact beq_self_of_isFinite (isFinite_ofNat hposition)
  | object host => rw [reload, toJson, ofJson, normalized, beq_string, beq_self_eq_true]

theorem Plain.reload_beq {value : Value H} (h : Plain value) : (reload value == value) = true := by
  have hreload := h.wellFormed.reload_beq
  rwa [h.normalized_eq] at hreload

/--
A value that went through JSON equals the value with everything replaced that JSON
has no form for.  A value made of the rest comes back equal, and so does what came
back once.
-/
theorem reload_normalizes {value : Value H} (h : WellFormed value) :
    (reload value == normalized value) = true ∧
      (Plain value → (reload value == value) = true) ∧
      (reload (reload value) == reload value) = true :=
  ⟨h.reload_beq, Plain.reload_beq, h.plain_reload.reload_beq⟩

theorem reload_normalizes_nested :
    let plain : Value Empty := .map [("k", .bool true), ("b", .array [.number 2.5, .null])]
    let value : Value Empty :=
      .map [("z", .iteration ⟨2, 4, true⟩), ("a", .array [.undefined, .number (0.0 / 0.0)]),
        ("m", plain)]
    Plain plain ∧ (reload plain == plain) = true ∧ WellFormed value ∧
      (reload value ==
        .map [("z", .ofIndex 3), ("a", .array [.null, .null]), ("m", plain)]) = true ∧
      (reload (reload value) == reload value) = true := by
  intro plain value
  have hnumber : (ofFloat 2.5).isFinite = true := by rfl
  have hnan : (ofFloat (0.0 / 0.0)).isFinite = false := by rfl
  have hplain : Plain plain := by
    refine .map (by decide) (List.forall_mem_cons.mpr ⟨.bool true, ?_⟩)
    refine List.forall_mem_singleton.mpr (.array ?_)
    exact List.forall_mem_cons.mpr ⟨.number hnumber, List.forall_mem_singleton.mpr .null⟩
  have hitems : WellFormed (.array [.undefined, .number (0.0 / 0.0)] : Value Empty) :=
    .array (List.forall_mem_cons.mpr ⟨.undefined, List.forall_mem_singleton.mpr (.number _)⟩)
  have hvalue : WellFormed value := by
    refine .map (by decide) (List.forall_mem_cons.mpr ⟨.iteration (by decide), ?_⟩)
    exact List.forall_mem_cons.mpr ⟨hitems, List.forall_mem_singleton.mpr hplain.wellFormed⟩
  have hnormalized : normalized value =
      .map [("z", .ofIndex 3), ("a", .array [.null, .null]), ("m", plain)] := by
    simp [value, normalized, hplain.normalized_eq, hnan, Iteration.position]
  obtain ⟨hreload, -, hagain⟩ := reload_normalizes hvalue
  rw [hnormalized] at hreload
  exact ⟨hplain, (reload_normalizes hplain.wellFormed).2.1 hplain, hvalue, hreload, hagain⟩

end Value

end BraceTemplate
