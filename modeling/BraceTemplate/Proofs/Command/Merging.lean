import BraceTemplate.Command.Run
import BraceTemplate.Proofs.Command.Arguments
import BraceTemplate.Proofs.Config.Document
import BraceTemplate.Proofs.Engine.History

/-!
# Arguments over the configuration

The engine of a command has the settings and entries of its configuration, with
those of the arguments merged over them.  Of two definitions of one name the later
counts.
-/

namespace BraceTemplate.Command

variable {H W : Type}

theorem check_of_loadConfig [Toml.Library] {sources : Sources} {path : Option String}
    {config : Config H} (h : loadConfig sources path = .ok config) :
    config.settings.check = .ok () := by
  unfold loadConfig at h
  split at h
  · cases h
    rfl
  · split at h
    · cases h
    · rename_i text _
      cases hread : (Config.ofToml text : Except ConfigError (Config H)) with
      | error cause =>
          rw [hread] at h
          cases h
      | ok read =>
          rw [hread] at h
          cases h
          obtain ⟨-, -, -, hcheck⟩ := Config.ofToml_eq_ok_iff.mp hread
          exact hcheck

def globalWrites (a : Arguments) : Dictionary (Value H) :=
  a.defines.map fun definition => (definition.1, readGlobal definition.2)

theorem names_globalWrites (a : Arguments) :
    (globalWrites a : Dictionary (Value H)).names = Dictionary.names a.defines :=
  Dictionary.names_map readGlobal a.defines

theorem lastWritten?_globalWrites (a : Arguments) (name : String) :
    Dictionary.lastWritten? (globalWrites a : Dictionary (Value H)) name =
      (Dictionary.lastWritten? a.defines name).map readGlobal := by
  rw [Dictionary.lastWritten?, globalWrites, ← List.map_reverse, Dictionary.find?_map]
  rfl

variable [HostObject H]

theorem exists_buildEngine {config : Config H} (hcheck : config.settings.check = .ok ())
    (a : Arguments) :
    ∃ engine : Engine H W, buildEngine config a = .ok engine ∧
      engine.settings =
        { config.settings with
          delimiter := (a.delimiter.filter (· ≠ "")).getD config.settings.delimiter
          compact := a.compact || config.settings.compact
          onFilterError :=
            if a.strictFilters then .propagate else config.settings.onFilterError } ∧
      engine.includes = config.includes.map (fun entry => (entry.1, .text entry.2)) ∧
      engine.globals = config.globals.merge (globalWrites a) := by
  let start : Engine H W :=
    ⟨⟨Registry.builtin, config.includes.map fun entry => (entry.1, .text entry.2),
      config.globals, config.settings⟩, []⟩
  have hstart : Engine.ofConfig config = .ok start := by
    rw [Engine.ofConfig, hcheck]
    rfl
  have hglobals : start.globals.merge (optionsOf (W := W) a).globals =
      config.globals.merge (globalWrites a) := Dictionary.merge_ofList _ _
  have hcompact : (optionsOf (H := H) (W := W) a).compact.getD start.settings.compact =
      (a.compact || config.settings.compact) := by
    unfold optionsOf
    cases a.compact <;> rfl
  have hconfigured : (start.configure (optionsOf a)).toEnvironment =
      { start.toEnvironment with
        globals := config.globals.merge (globalWrites a)
        settings :=
          { config.settings with
            delimiter := (a.delimiter.filter (· ≠ "")).getD config.settings.delimiter
            compact := a.compact || config.settings.compact } } := by
    rw [Engine.toEnvironment_configure, hglobals, hcompact]
    rfl
  unfold buildEngine
  rw [hstart]
  refine ⟨_, rfl, ?_⟩
  cases a.strictFilters with
  | true => simp [Engine.setPolicy, hconfigured, start]
  | false => simp [hconfigured, start]

/--
The arguments are merged over the configuration.  A delimiter that is not empty, a
switch that is given and the last definition of a name win over what is
configured; limits and includes stay.  Names that are not configured follow those
that are, each where it is first defined.
-/
theorem buildEngine_merges [Toml.Library] {sources : Sources} {a : Arguments} {config : Config H}
    (hconfig : loadConfig sources a.config = .ok config) :
    (∀ arguments, readArguments arguments = .ok a → Describes (given none arguments) a) ∧
    ∃ engine : Engine H W, buildEngine config a = .ok engine ∧
      engine.settings.delimiter = (a.delimiter.filter (· ≠ "")).getD config.settings.delimiter ∧
      engine.settings.compact = (a.compact || config.settings.compact) ∧
      engine.settings.onFilterError =
        (if a.strictFilters then .propagate else config.settings.onFilterError) ∧
      engine.settings.maxDepth = config.settings.maxDepth ∧
      engine.settings.maxTemplateSize = config.settings.maxTemplateSize ∧
      engine.includes = config.includes.map (fun entry => (entry.1, .text entry.2)) ∧
      (∀ name, engine.globals.find? name =
        ((Dictionary.lastWritten? a.defines name).map readGlobal).or
          (config.globals.find? name)) ∧
      engine.globals.names = config.globals.names ++
        Dictionary.newNames config.globals.names (Dictionary.names a.defines) := by
  obtain ⟨engine, hbuild, hsettings, hincludes, hglobals⟩ :=
    exists_buildEngine (W := W) (check_of_loadConfig hconfig) a
  refine ⟨fun _ => describes_of_readArguments, engine, hbuild, ?_⟩
  rw [hsettings, hglobals]
  refine ⟨rfl, rfl, rfl, rfl, rfl, hincludes, fun name => ?_, ?_⟩
  · rw [Dictionary.find?_merge, lastWritten?_globalWrites]
  · rw [Dictionary.names_merge, names_globalWrites]

theorem buildEngine_merges_repeated :
    let sources : Sources :=
      ⟨fun _ => some "delimiter = \":\"\n[globals]\nsite = \"x\"\n", none⟩
    let arguments := ["-D", "page=x", "-Dsite=a=b", "--config", "c", "t", "--delimiter", "",
      "-D=page=[null]", "--strict-filters"]
    ∃ a config, readArguments arguments = .ok a ∧ loadConfig sources a.config = .ok config ∧
      List.Forall₂ IsDefinition ["page=x", "site=a=b", "page=[null]"] a.defines ∧
      ∃ engine : Engine Empty Unit, buildEngine config a = .ok engine ∧
        engine.settings.delimiter = ":" ∧ engine.settings.onFilterError = .propagate ∧
        engine.globals.names = ["site", "page"] ∧
        engine.globals.find? "site" = some (.string "a=b") ∧
        engine.globals.find? "page" = some (.array [.null]) := by
  intro sources arguments
  let a : Arguments := ⟨some "t", none, some "c", some "", false, true,
    [("page", "x"), ("site", "a=b"), ("page", "[null]")]⟩
  let config : Config Empty :=
    ⟨⟨":", false, .passthrough, 64, 1048576⟩, [("site", .string "x")], []⟩
  have ha : readArguments arguments = .ok a := by cbv
  have hconfig : loadConfig sources a.config = .ok config := by cbv
  have hsite : (readGlobal "a=b" : Value Empty) = .string "a=b" := by cbv
  have hpage : (readGlobal "[null]" : Value Empty) = .array [.null] := by cbv
  obtain ⟨hgiven, engine, hbuild, hdelimiter, -, hpolicy, -, -, -, hfind, hnames⟩ :=
    buildEngine_merges (W := Unit) hconfig
  have htexts : values .define (given none arguments) = ["page=x", "site=a=b", "page=[null]"] := by
    cbv
  refine ⟨a, config, ha, hconfig, htexts ▸ (hgiven arguments ha).defines, engine, hbuild, ?_⟩
  rw [hdelimiter, hpolicy, hnames, hfind, hfind]
  exact ⟨by decide, rfl, by decide, congrArg some hsite, congrArg some hpage⟩

end BraceTemplate.Command
