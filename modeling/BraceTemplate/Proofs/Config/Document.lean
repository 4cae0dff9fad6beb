import BraceTemplate.Config
import BraceTemplate.Proofs.Toml.Library
import BraceTemplate.Proofs.Toml.Writer
import BraceTemplate.Proofs.Value.Reload

/-!
# Configurations as documents

What is read from a document whose globals and includes TOML has a form for has such
a form itself: its own document is exact, and the fields that are read from that
document in order are those of the configuration.
-/

namespace BraceTemplate

open Binary64
open Dictionary (names)

namespace Json

theorem member?_ofMembers {members : Dictionary Json} (h : (names members).Nodup) (name : String) :
    (ofMembers members).member? name = Dictionary.find? members name := by
  obtain ⟨sorted, hsorted, hperm⟩ := exists_ofMembers_perm h
  rw [hsorted, member?]
  exact Dictionary.find?_of_perm h hperm.symm name

end Json

namespace Value

variable {H : Type}

theorem ordered_toJson [HostObject H] (value : Value H) : value.toJson.Ordered := by
  induction value using toJson.induct with
  | case1 => rw [toJson]; exact .null
  | case2 => rw [toJson]; exact .null
  | case3 b => rw [toJson]; exact .bool b
  | case4 x =>
      rw [toJson, numberToJson]
      split
      · exact .integer _
      · split
        · exact .float x
        · exact .null
  | case5 s => rw [toJson]; exact .string s
  | case6 items ih =>
      rw [toJson]
      exact .array (List.forall_mem_map.mpr ih)
  | case7 entries ih =>
      rw [toJson]
      exact Json.ordered_ofMembers (List.forall_mem_map.mpr ih)
  | case8 i => rw [toJson]; exact .integer _
  | case9 host => rw [toJson]; exact .string _

theorem plain_ofJson {document : Json} (h : Toml.Exact document) :
    Plain (ofJson document : Value H) := by
  induction h with
  | bool b => rw [ofJson]; exact .bool b
  | integer hlow hhigh => rw [ofJson]; exact .number (isFinite_ofInt hlow hhigh)
  | float hfinite => rw [ofJson]; exact .number hfinite
  | string s => rw [ofJson]; exact .string s
  | array _ ih =>
      rw [ofJson]
      exact .array (List.forall_mem_map.mpr ih)
  | object hnames _ ih =>
      rw [ofJson]
      refine .map ?_ (List.forall_mem_map.mpr ih)
      rwa [Dictionary.names_map]

theorem exact_numberToJson {x : Float} (h : (ofFloat x).isFinite = true) :
    Toml.Exact (numberToJson x) := by
  rw [numberToJson]
  split
  · rename_i hinteger
    simp only [Bool.and_eq_true, decide_eq_true_eq, Nat.pow_eq] at hinteger
    exact .integer (by omega) (by omega)
  · split
    · exact .float h
    · rename_i hnot
      cases hx : ofFloat x with
      | finite negative mantissa exponent => exact absurd hx (hnot negative mantissa exponent)
      | infinite negative => rw [hx] at h; cases h
      | nan => rw [hx] at h; cases h

theorem exact_ofMembers {members : Dictionary Json} (hnames : (names members).Nodup)
    (hmembers : ∀ member ∈ members, Toml.Exact member.2) : Toml.Exact (Json.ofMembers members) := by
  obtain ⟨sorted, hsorted, hperm⟩ := Json.exists_ofMembers_perm hnames
  rw [hsorted]
  exact .object ((hperm.map Prod.fst).nodup_iff.mpr hnames) fun member hmem =>
    hmembers member (hperm.mem_iff.mp hmem)

theorem exact_toJson_ofJson [HostObject H] {document : Json} (h : Toml.Exact document) :
    Toml.Exact (ofJson document : Value H).toJson := by
  induction h with
  | bool b => rw [ofJson, toJson]; exact .bool b
  | integer hlow hhigh =>
      rw [ofJson, toJson]
      exact exact_numberToJson (isFinite_ofInt hlow hhigh)
  | float hfinite =>
      rw [ofJson, toJson]
      exact exact_numberToJson hfinite
  | string s => rw [ofJson, toJson]; exact .string s
  | array _ ih =>
      rw [ofJson, toJson, List.map_map]
      exact .array (List.forall_mem_map.mpr ih)
  | @object members hnames _ ih =>
      rw [ofJson, toJson, List.map_map]
      refine exact_ofMembers ?_ (List.forall_mem_map.mpr ih)
      rwa [Function.comp_def,
        Dictionary.names_map (fun document => toJson (ofJson document : Value H))]

end Value

namespace Config

variable {H : Type}

theorem ofToml_eq_ok_iff [Toml.Library] {text : String} {config : Config H} :
    ofToml text = .ok config ↔
      ∃ document, Toml.Library.read? text = some document ∧
        ofDocument? isEmptyTable document = some config ∧ config.settings.check = .ok () := by
  rw [ofToml]
  constructor
  · intro h
    split at h
    · rename_i read hread
      obtain ⟨document, hdocument, hconfig⟩ := Option.bind_eq_some_iff.mp hread
      cases hcheck : read.settings.check with
      | error e =>
          rw [hcheck] at h
          cases h
      | ok =>
          rw [hcheck] at h
          obtain rfl := Except.ok.inj h
          exact ⟨document, hdocument, hconfig, hcheck⟩
    · cases h
  · rintro ⟨document, hread, hconfig, hcheck⟩
    rw [hread, Option.bind_some, hconfig]
    simp only [hcheck]
    rfl

variable [HostObject H]

/-! ## What is read from a document -/

/-- TOML has a form for the globals and the includes; other fields may hold anything. -/
def HoldsExact (document : Json) : Prop :=
  ∀ name inner, name = "globals" ∨ name = "includes" → document.member? name = some inner →
    Toml.Exact inner

theorem HoldsExact.of_exact {document : Json} (h : Toml.Exact document) : HoldsExact document := by
  rintro name inner - hinner
  cases h with
  | object _ hmembers => exact hmembers _ (Dictionary.mem_of_find? hinner)
  | _ => cases hinner

/-- Has a form in TOML, but for limits beyond a signed machine word. -/
structure IsPlain (config : Config H) : Prop where
  globals : Value.Plain (.map config.globals)
  documents : ∀ entry ∈ config.globals, Toml.Exact entry.2.toJson
  includes : config.includes.names.Nodup
  maxDepth : config.settings.maxDepth < 2 ^ 64
  maxTemplateSize : config.settings.maxTemplateSize < 2 ^ 64

theorem field_eq_some {α : Type} {document : Json} {name : String} {initial value : α}
    {read : Json → Option α} (h : field document name initial read = some value) :
    value = initial ∨ ∃ inner, document.member? name = some inner ∧ read inner = some value := by
  rw [field] at h
  split at h
  · rename_i inner hinner
    exact .inr ⟨inner, hinner, h⟩
  · exact .inl (Option.some.inj h).symm

omit [HostObject H] in
theorem map_eq_of_readGlobals? {document : Json} {globals : Dictionary (Value H)}
    (h : readGlobals? document = some globals) : .map globals = (.ofJson document : Value H) := by
  cases document with
  | object members =>
      obtain rfl := Option.some.inj h
      rw [Value.ofJson]
  | _ => cases h

theorem names_of_readIncludes? {members : Dictionary Json} {includes : Dictionary String}
    (h : readIncludes? (.object members) = some includes) : includes.names = names members := by
  have hread := Toml.mapM_eq_some_iff.mp h
  have hsame : List.Forall₂ (fun (member : String × Json) (entry : String × String) =>
      member.1 = entry.1) members includes := by
    refine hread.imp fun member entry hentry => ?_
    obtain ⟨text, -, rfl⟩ := Option.map_eq_some_iff.mp hentry
    rfl
  have hnames : List.Forall₂ (· = ·) (names members) includes.names :=
    List.forall₂_map_left_iff.mpr (List.forall₂_map_right_iff.mpr hsame)
  rw [List.forall₂_eq_eq_eq] at hnames
  exact hnames.symm

theorem lt_of_readLimit? {document : Json} {limit : Nat} (h : readLimit? document = some limit) :
    limit < 2 ^ 64 := by
  cases document with
  | integer n =>
      rw [readLimit?] at h
      split at h
      · rename_i hbounds
        obtain rfl := Option.some.inj h
        have hhigh : n < 2 ^ 64 := hbounds.2
        omega
      · cases h
  | _ => cases h

theorem readLimit?_natCast {limit : Nat} (h : limit < 2 ^ 64) :
    readLimit? (.integer limit) = some limit := by
  have hhigh : (limit : Int) < (2 ^ 64 : Nat) := by exact_mod_cast h
  rw [readLimit?, if_pos ⟨Int.natCast_nonneg limit, hhigh⟩, Int.toNat_natCast]

theorem lt_of_field_readLimit? {document : Json} {name : String} {initial limit : Nat}
    (hinitial : initial < 2 ^ 64) (h : field document name initial readLimit? = some limit) :
    limit < 2 ^ 64 := by
  rcases field_eq_some h with rfl | ⟨inner, -, hread⟩
  · exact hinitial
  · exact lt_of_readLimit? hread

theorem IsPlain.of_ofDocument? {saysNothing : Json → Bool} {document : Json}
    (hdocument : HoldsExact document) {config : Config H}
    (h : ofDocument? saysNothing document = some config) : IsPlain config := by
  unfold ofDocument? at h
  simp only [Option.bind_eq_bind, Option.bind_eq_some_iff, Option.some_inj] at h
  obtain ⟨-, -, delimiter, -, compact, -, policy, -, maxDepth, hdepth, maxTemplateSize, hsize,
    globals, hglobals, includes, hincludes, rfl⟩ := h
  refine ⟨?_, ?_, ?_, lt_of_field_readLimit? (by decide) hdepth,
    lt_of_field_readLimit? (by decide) hsize⟩
  · rcases field_eq_some hglobals with rfl | ⟨inner, hinner, hread⟩
    · exact .map List.nodup_nil (List.forall_mem_nil _)
    · rw [map_eq_of_readGlobals? hread]
      exact Value.plain_ofJson (hdocument _ _ (.inl rfl) hinner)
  · rcases field_eq_some hglobals with rfl | ⟨inner, hinner, hread⟩
    · exact List.forall_mem_nil _
    · cases hdocument _ _ (.inl rfl) hinner with
      | object _ hmembers =>
          obtain rfl := Option.some.inj hread
          exact List.forall_mem_map.mpr fun member hmem =>
            Value.exact_toJson_ofJson (hmembers member hmem)
      | _ => cases hread
  · rcases field_eq_some hincludes with rfl | ⟨inner, hinner, hread⟩
    · exact List.nodup_nil
    · cases hdocument _ _ (.inr rfl) hinner with
      | object hnames _ => exact (names_of_readIncludes? hread).symm ▸ hnames
      | _ => cases hread

/-! ## Reading a configuration's own document -/

theorem sorted_globals (globals : Dictionary (Value H)) :
    Json.sorted (.object (globals.map fun entry => (entry.1, entry.2.toJson))) =
      Value.toJson (.map globals) := by
  rw [Json.sorted, Value.toJson, List.map_map]
  refine congrArg Json.ofMembers (List.map_congr_left fun entry _ => ?_)
  exact congrArg (Prod.mk entry.1) (Value.ordered_toJson entry.2).sorted_eq

theorem exists_readGlobals? (globals : Dictionary (Value H)) :
    ∃ others : Dictionary (Value H), readGlobals? (Value.toJson (.map globals)) = some others ∧
      Value.reload (.map globals) = .map others := by
  obtain ⟨sorted, hsorted, -⟩ := Json.exists_ofMembers_inOrder
    (globals.map fun entry => (entry.1, entry.2.toJson))
  refine ⟨sorted.map fun member => (member.1, .ofJson member.2), ?_, ?_⟩
  · rw [Value.toJson, hsorted, readGlobals?]
  · rw [Value.reload, Value.toJson, hsorted, Value.ofJson]

theorem exists_readIncludes? {includes : Dictionary String} (h : includes.names.Nodup) :
    ∃ others, readIncludes?
        (Json.sorted (.object (includes.map fun entry => (entry.1, .string entry.2)))) =
          some others ∧ others.Perm includes := by
  have hdocuments : (names (includes.map fun entry => (entry.1, Json.string entry.2))).Nodup := by
    rwa [Dictionary.names_map]
  obtain ⟨sorted, hsorted, hperm⟩ := Json.exists_ofMembers_perm hdocuments
  have hmembers : (includes.map fun entry => (entry.1, Json.string entry.2)).map
      (fun member => (member.1, Json.sorted member.2)) =
        includes.map fun entry => (entry.1, Json.string entry.2) := by
    rw [List.map_map]
    exact List.map_congr_left fun entry _ =>
      congrArg (Prod.mk entry.1) (Json.Ordered.string entry.2).sorted_eq
  let text := fun (member : String × Json) => (member.1, (readString? member.2).getD "")
  refine ⟨sorted.map text, ?_, ?_⟩
  · rw [Json.sorted, hmembers, hsorted, readIncludes?, Toml.mapM_eq_some_iff,
      List.forall₂_map_right_iff]
    refine List.forall₂_same.mpr fun member hmem => ?_
    obtain ⟨entry, -, rfl⟩ := List.mem_map.mp (hperm.mem_iff.mp hmem)
    rfl
  · have hentries := hperm.map text
    rwa [List.map_map, show text ∘ _ = id from rfl, List.map_id] at hentries

theorem field_sorted {members : Dictionary Json} (h : (names members).Nodup) {α : Type}
    (name : String) (initial : α) (read : Json → Option α) :
    field (Json.sorted (.object members)) name initial read =
      field (.object members) name initial fun document => read document.sorted := by
  have hmembers : (names (members.map fun member => (member.1, Json.sorted member.2))).Nodup := by
    rwa [Dictionary.names_map]
  rw [field, field, Json.sorted, Json.member?_ofMembers hmembers, Dictionary.find?_map,
    Json.member?]
  cases Dictionary.find? members name <;> rfl

theorem readPolicy?_policyName (saysNothing : Json → Bool) (policy : FailurePolicy) :
    readPolicy? saysNothing (.string (policyName policy)) = some policy := by
  cases policy <;> rfl

theorem nodup_names_fields
    (delimiter compact policy maxDepth maxTemplateSize globals includes : Json) :
    (names [("delimiter", delimiter), ("compact", compact), ("on_filter_error", policy),
      ("max_depth", maxDepth), ("max_template_size", maxTemplateSize), ("globals", globals),
      ("includes", includes)]).Nodup := by
  change ["delimiter", "compact", "on_filter_error", "max_depth", "max_template_size", "globals",
    "includes"].Nodup
  decide

theorem field_toJson_sorted (config : Config H) {α : Type} (name : String) (initial : α)
    (read : Json → Option α) :
    field config.toJson.sorted name initial read =
      field config.toJson name initial fun document => read document.sorted :=
  field_sorted (nodup_names_fields ..) name initial read

theorem IsPlain.ofDocument?_sorted {config : Config H} (h : IsPlain config) :
    ∃ other, ofDocument? isEmptyTable config.toJson.sorted = some other ∧
      other.settings = config.settings ∧
      Value.reload (.map config.globals) = .map other.globals ∧
      other.includes.Perm config.includes := by
  obtain ⟨globals, hglobals, hreload⟩ := exists_readGlobals? config.globals
  obtain ⟨includes, hincludes, hperm⟩ := exists_readIncludes? h.includes
  rw [← sorted_globals] at hglobals
  refine ⟨⟨config.settings, globals, includes⟩, ?_, rfl, hreload, hperm⟩
  have htable : Toml.isTable config.toJson.sorted = true := by
    rw [toJson, Json.sorted, Json.ofMembers, Toml.isTable]
  have hstring (s : String) : Json.sorted (.string s) = .string s :=
    (Json.Ordered.string s).sorted_eq
  have hbool (b : Bool) : Json.sorted (.bool b) = .bool b := (Json.Ordered.bool b).sorted_eq
  have hinteger (n : Int) : Json.sorted (.integer n) = .integer n :=
    (Json.Ordered.integer n).sorted_eq
  unfold ofDocument?
  simp only [htable, field_toJson_sorted]
  simp [field, toJson, Json.member?, Dictionary.find?_cons, hglobals, hincludes, hstring, hbool,
    hinteger, readString?, readBool?, readPolicy?_policyName,
    readLimit?_natCast h.maxDepth, readLimit?_natCast h.maxTemplateSize]

end Config

end BraceTemplate
