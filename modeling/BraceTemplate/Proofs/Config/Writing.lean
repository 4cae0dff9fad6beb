import BraceTemplate.Proofs.Config.Document
import BraceTemplate.Proofs.Toml.RoundTrip

/-!
# Configurations that are written and read back

A configuration that was accepted is written with all its fields.  What is read back
from that text has the same settings and includes, and equal globals.
-/

namespace BraceTemplate.Config

variable {H : Type}

theorem usable_of_check {settings : Settings} (h : settings.check = .ok ()) :
    settings.delimiter ≠ "" ∧ 1 ≤ settings.maxDepth := by
  rw [Settings.check] at h
  split at h
  · cases h
  · rename_i hdelimiter
    split at h
    · cases h
    · refine ⟨?_, by omega⟩
      simpa [String.isEmpty_iff] using hdelimiter

theorem equal_of_reload [BEq H] {config other : Config H}
    (hsettings : other.settings = config.settings)
    (hglobals : (Value.map other.globals == Value.map config.globals) = true)
    (hnames : config.includes.names.Nodup) (hincludes : other.includes.Perm config.includes) :
    other.equal config = true := by
  have hfound : ∀ entry ∈ other.includes, config.includes.find? entry.1 = some entry.2 :=
    fun entry hmem => Dictionary.find?_of_mem hnames (hincludes.mem_iff.mp hmem)
  change (Value.map other.globals).equal (Value.map config.globals) = true at hglobals
  simp only [equal, hsettings, hglobals, hincludes.length_eq, beq_self_eq_true, Bool.true_and,
    List.all_eq_true, beq_iff_eq]
  exact hfound

variable [HostObject H]

theorem IsPlain.exact_toJson {config : Config H} (h : IsPlain config) :
    Toml.Exact config.toJson := by
  have hlimit {limit : Nat} (hlt : limit < 2 ^ 64) : Toml.Exact (.integer limit) :=
    .integer (by omega) (by omega)
  have hentries : Toml.Exact
      (.object (config.globals.map fun entry => (entry.1, entry.2.toJson))) := by
    cases h.globals with
    | map hnames _ =>
        refine .object ?_ (List.forall_mem_map.mpr h.documents)
        rwa [Dictionary.names_map]
  have hincludes : Toml.Exact
      (.object (config.includes.map fun entry => (entry.1, .string entry.2))) := by
    refine .object ?_ (List.forall_mem_map.mpr fun entry _ => .string entry.2)
    rw [Dictionary.names_map (fun text => Json.string text)]
    exact h.includes
  refine .object (nodup_names_fields ..) ?_
  simp only [List.forall_mem_cons]
  exact ⟨.string _, .bool _, .string _, hlimit h.maxDepth, hlimit h.maxTemplateSize, hentries,
    hincludes, List.forall_mem_nil _⟩

theorem IsPlain.exists_equal [Toml.Library] [BEq H] {config : Config H} (h : IsPlain config)
    (hcheck : config.settings.check = .ok ()) {written : String}
    (hback : Toml.Library.read? written = some config.toJson.sorted) :
    ∃ other, ofToml written = .ok other ∧ other.equal config = true := by
  obtain ⟨other, hother, hsettings, hreload, hincludes⟩ := h.ofDocument?_sorted
  refine ⟨other, ofToml_eq_ok_iff.mpr ⟨_, hback, hother, hsettings ▸ hcheck⟩, ?_⟩
  exact equal_of_reload hsettings (hreload ▸ h.globals.reload_beq) h.includes hincludes

/--
An accepted configuration can be used.  If TOML has a form for its globals and includes,
and reading inverts writing as deep as the configuration is nested, then the text that it
is written as is accepted and gives an equal one.
-/
theorem toToml_lossless [Toml.Library] [BEq H] {text : String} {config : Config H}
    (hread : ofToml text = .ok config) :
    (config.settings.delimiter ≠ "" ∧ 1 ≤ config.settings.maxDepth) ∧
      ∀ document, Toml.Library.read? text = some document → HoldsExact document →
        Toml.Library.Inverts config.toJson.depth →
        ∀ written, config.toToml? = some written →
          ∃ other, ofToml written = .ok other ∧ other.equal config = true := by
  obtain ⟨document, hdocument, hconfig, hcheck⟩ := ofToml_eq_ok_iff.mp hread
  refine ⟨usable_of_check hcheck, fun same hsame hexact hinverts written hwrite => ?_⟩
  obtain rfl := Option.some.inj (hdocument.symm.trans hsame)
  have hplain := IsPlain.of_ofDocument? hexact hconfig
  exact hplain.exists_equal hcheck (hinverts _ _ hplain.exact_toJson le_rfl hwrite)

def nested : Config Empty :=
  ⟨.initial, [("count", .number (Float.ofInt 3)), ("page", .map [("name", .string "a")])],
    [("page", "x")]⟩

theorem toJson_nested :
    nested.toJson = .object
      [("delimiter", .string ">"), ("compact", .bool false),
        ("on_filter_error", .string "passthrough"), ("max_depth", .integer 64),
        ("max_template_size", .integer 1048576),
        ("globals", .object [("count", .integer 3), ("page", .object [("name", .string "a")])]),
        ("includes", .object [("page", .string "x")])] := by
  have hbits : Binary64.ofFloat (Float.ofInt 3) = .finite false (3 * 2 ^ 51) (-51) := by
    decide +kernel
  have hthree : Value.numberToJson (Float.ofInt 3) = .integer 3 := by
    rw [Value.numberToJson, hbits]
    simp [Binary64.isIntegral, Binary64.truncate]
  simp [toJson, nested, Value.toJson, hthree, policyName, Settings.initial, Json.ofMembers,
    Json.insertMember]

set_option maxRecDepth 50000 in
theorem toToml?_nested :
    nested.toToml? = some ("delimiter = \">\"\ncompact = false\n" ++
      "on_filter_error = \"passthrough\"\nmax_depth = 64\nmax_template_size = 1048576\n\n" ++
      "[globals]\ncount = 3\n\n[globals.page]\nname = \"a\"\n\n[includes]\npage = \"x\"\n") := by
  change Toml.write? nested.toJson = _
  rw [toJson_nested]
  cbv

def nestedText : String :=
  "globals = \x7b count = 3, page.name = 'a' \x7d\nincludes.page = \"x\"\n"

def nestedDocument : Json :=
  .object
    [("globals", .object [("count", .integer 3), ("page", .object [("name", .string "a")])]),
      ("includes", .object [("page", .string "x")])]

theorem exact_nestedDocument : Toml.Exact nestedDocument := by
  have hone (name text : String) : Toml.Exact (.object [(name, .string text)]) :=
    .object (List.nodup_singleton _) (List.forall_mem_singleton.mpr (.string text))
  refine .object (by decide) ?_
  simp only [List.forall_mem_cons]
  refine ⟨.object (by decide) ?_, hone _ _, List.forall_mem_nil _⟩
  simp only [List.forall_mem_cons]
  exact ⟨.integer (by decide) (by decide), hone _ _, List.forall_mem_nil _⟩

set_option maxRecDepth 50000 in
theorem read?_nestedText : Toml.Library.read? nestedText = some nestedDocument := by
  change Toml.read? nestedText.toList = _
  cbv

theorem ofToml_nestedText : ofToml nestedText = .ok nested := by
  have hconfig : ofDocument? isEmptyTable nestedDocument = some nested := by
    simp [ofDocument?, field, nestedDocument, Json.member?, Dictionary.find?_cons, Toml.isTable,
      readGlobals?, readIncludes?, readString?, Value.ofJson, nested, Settings.initial]
  exact ofToml_eq_ok_iff.mpr ⟨_, read?_nestedText, hconfig, rfl⟩

theorem toToml_lossless_nested :
    ∃ written other, ofToml nestedText = .ok nested ∧ nested.toToml? = some written ∧
      ofToml written = .ok other ∧ other.equal nested = true := by
  have hdepth : nested.toJson.depth ≤ Toml.Reader.maxNesting := by
    rw [toJson_nested]
    simp [Json.depth, Toml.Reader.maxNesting]
  obtain ⟨-, hback⟩ := toToml_lossless ofToml_nestedText
  obtain ⟨other, hother, hequal⟩ := hback _ read?_nestedText (.of_exact exact_nestedDocument)
    (Toml.inverts_of_le hdepth) _ toToml?_nested
  exact ⟨_, other, ofToml_nestedText, toToml?_nested, hother, hequal⟩

end BraceTemplate.Config
