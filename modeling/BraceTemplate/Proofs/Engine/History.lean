import BraceTemplate.Config
import BraceTemplate.Engine.Render
import BraceTemplate.Proofs.Dictionary

/-!
# Histories of engines

An engine starts fresh and then goes through operations, renders among them.
Each of its registries is the one it started with, with all that the operations
write merged into it; each setting is the last override or what it started as.
-/

namespace BraceTemplate

variable {H W : Type}

inductive Operation (H W : Type) where
  | configure (options : Options H W)
  | registerFilter (name : String) (filter : Filter H)
  | registerInclude (name : String) (inclusion : Include W)
  | setGlobal (name : String) (value : Value H)
  | setPolicy (policy : FailurePolicy)
  | clearCaptures
  /-- Renders, with the producers in any world: what else uses them may have changed it. -/
  | render (world : W) (template : String) (context : Value H)
  | renderWith (world : W) (template : String) (context : Value H) (options : Options H W)
  /-- Goes on with a copy, whatever is done with the original. -/
  | clone

namespace Operation

def perform [HostObject H] (engine : Engine H W) : Operation H W → Engine H W
  | configure options => engine.configure options
  | registerFilter name filter => engine.registerFilter name filter
  | registerInclude name inclusion => engine.registerInclude name inclusion
  | setGlobal name value => engine.setGlobal name value
  | setPolicy policy => engine.setPolicy policy
  | clearCaptures => engine.clearCaptures
  | render world template context => (engine.render world template context).2.1
  | renderWith world template context options =>
      (engine.renderWith world template context options).2.1
  | clone => engine

/-! ## What an operation writes -/

def options : Operation H W → Options H W
  | configure options | renderWith _ _ _ options => options
  | _ => .none

def filterWrites : Operation H W → List (String × Filter H)
  | registerFilter name filter => [(name, filter)]
  | operation => operation.options.filters

def includeWrites : Operation H W → List (String × Include W)
  | registerInclude name inclusion => [(name, inclusion)]
  | operation => operation.options.includes

def globalWrites : Operation H W → List (String × Value H)
  | setGlobal name value => [(name, value)]
  | operation => operation.options.globals

def delimiter? (operation : Operation H W) : Option String :=
  operation.options.delimiter.filter (· ≠ "")

def compact? (operation : Operation H W) : Option Bool := operation.options.compact

def policy? : Operation H W → Option FailurePolicy
  | setPolicy policy => some policy
  | _ => none

end Operation

def lastSet {α : Type} (set? : Operation H W → Option α) (operations : List (Operation H W))
    (before : α) : α :=
  (operations.filterMap set?).getLast?.getD before

theorem lastSet_cons {α : Type} (set? : Operation H W → Option α) (operation : Operation H W)
    (operations : List (Operation H W)) (before : α) :
    lastSet set? (operation :: operations) before =
      lastSet set? operations ((set? operation).getD before) := by
  unfold lastSet
  cases hset : set? operation with
  | none => rw [List.filterMap_cons_none hset, Option.getD_none]
  | some value => simp [List.filterMap_cons_some hset, List.getLast?_cons]

theorem lastSet_of_forall {α : Type} (Holds : α → Prop) {set? : Operation H W → Option α}
    {before : α} (hbefore : Holds before)
    (hset : ∀ operation value, set? operation = some value → Holds value)
    (operations : List (Operation H W)) : Holds (lastSet set? operations before) := by
  induction operations generalizing before with
  | nil => exact hbefore
  | cons operation operations ih =>
      rw [lastSet_cons]
      apply ih
      cases hvalue : set? operation with
      | none => exact hbefore
      | some value => exact hset operation value hvalue

namespace Engine

variable [HostObject H]

def IsFresh (engine : Engine H W) : Prop :=
  engine = initial ∨ ∃ config, ofConfig config = .ok engine

def after (engine : Engine H W) (operations : List (Operation H W)) : Engine H W :=
  operations.foldl Operation.perform engine

/-! ## What operations change -/

theorem toEnvironment_render (engine : Engine H W) (world : W) (template : String)
    (context : Value H) :
    (engine.render world template context).2.1.toEnvironment = engine.toEnvironment := by
  by_cases hlarge : engine.settings.maxTemplateSize < template.utf8ByteSize
  · rw [render, if_pos hlarge]
  · rw [render, if_neg hlarge]
    rfl

omit [HostObject H] in
theorem toEnvironment_configure (engine : Engine H W) (options : Options H W) :
    (engine.configure options).toEnvironment =
      { filters := engine.filters.merge options.filters
        includes := engine.includes.merge options.includes
        globals := engine.globals.merge options.globals
        settings :=
          { engine.settings with
            delimiter := (options.delimiter.filter (· ≠ "")).getD engine.settings.delimiter
            compact := options.compact.getD engine.settings.compact } } := by
  have hfilter : (fun delimiter : String => !delimiter.isEmpty) = (· ≠ "") := by
    funext delimiter
    by_cases hempty : delimiter = "" <;> simp [hempty]
  rw [configure, hfilter]

theorem toEnvironment_perform (engine : Engine H W) (operation : Operation H W) :
    (operation.perform engine).toEnvironment =
      { filters := engine.filters.merge operation.filterWrites
        includes := engine.includes.merge operation.includeWrites
        globals := engine.globals.merge operation.globalWrites
        settings :=
          { engine.settings with
            delimiter := operation.delimiter?.getD engine.settings.delimiter
            compact := operation.compact?.getD engine.settings.compact
            onFilterError := operation.policy?.getD engine.settings.onFilterError } } := by
  cases operation with
  | render world template context => exact toEnvironment_render engine world template context
  | configure options => exact toEnvironment_configure engine options
  | renderWith world template context options =>
      have hrender := toEnvironment_render (engine.configure options) world template context
      exact hrender.trans (toEnvironment_configure engine options)
  | _ => rfl

theorem toEnvironment_after (engine : Engine H W) (operations : List (Operation H W)) :
    (engine.after operations).toEnvironment =
      { filters := engine.filters.merge (operations.flatMap Operation.filterWrites)
        includes := engine.includes.merge (operations.flatMap Operation.includeWrites)
        globals := engine.globals.merge (operations.flatMap Operation.globalWrites)
        settings :=
          { engine.settings with
            delimiter := lastSet Operation.delimiter? operations engine.settings.delimiter
            compact := lastSet Operation.compact? operations engine.settings.compact
            onFilterError :=
              lastSet Operation.policy? operations engine.settings.onFilterError } } := by
  induction operations generalizing engine with
  | nil => rfl
  | cons operation operations ih =>
      have hstep : engine.after (operation :: operations) =
          (operation.perform engine).after operations := rfl
      rw [hstep, ih, toEnvironment_perform]
      simp only [List.flatMap_cons, Dictionary.merge_append, lastSet_cons]

/-! ## Fresh engines -/

theorem eq_of_ofConfig {config : Config H} {engine : Engine H W}
    (h : ofConfig config = .ok engine) :
    config.settings.check = .ok () ∧
      engine =
        ⟨⟨Registry.builtin, config.includes.map fun entry => (entry.1, .text entry.2),
          config.globals, config.settings⟩, []⟩ := by
  unfold ofConfig at h
  cases hcheck : config.settings.check with
  | error error =>
      rw [hcheck] at h
      cases h
  | ok checked =>
      rw [hcheck] at h
      cases h
      exact ⟨rfl, rfl⟩

theorem settings_of_isFresh {engine : Engine H W} (h : engine.IsFresh) :
    engine.settings.delimiter ≠ "" ∧ engine.settings.maxDepth ≠ 0 := by
  rcases h with rfl | ⟨config, hconfig⟩
  · exact ⟨(by decide : ">" ≠ ""), (by decide : 64 ≠ 0)⟩
  · obtain ⟨hcheck, rfl⟩ := eq_of_ofConfig hconfig
    unfold Settings.check at hcheck
    split at hcheck
    · cases hcheck
    · split at hcheck
      · cases hcheck
      · rename_i hdelimiter hdepth
        exact ⟨by simpa using hdelimiter, hdepth⟩

theorem captures_of_isFresh {engine : Engine H W} (h : engine.IsFresh) : engine.captures = [] := by
  rcases h with rfl | ⟨config, hconfig⟩
  · rfl
  · rw [(eq_of_ofConfig hconfig).2]

/--
After any operations the settings can still be used, and each registry holds
what was written last under each name, or what it started with.  No name is ever
lost, and globals stand in the order in which their names first appeared.
-/
theorem registries_settings_after {start : Engine H W} (hfresh : start.IsFresh)
    (operations : List (Operation H W)) :
    let engine := start.after operations
    let globalWrites := operations.flatMap Operation.globalWrites
    (engine.settings.delimiter ≠ "" ∧ engine.settings.maxDepth ≠ 0) ∧
      (∀ name, engine.filters.find? name =
        (Dictionary.lastWritten? (operations.flatMap Operation.filterWrites) name).or
          (start.filters.find? name)) ∧
      (∀ name, engine.includes.find? name =
        (Dictionary.lastWritten? (operations.flatMap Operation.includeWrites) name).or
          (start.includes.find? name)) ∧
      (∀ name, engine.globals.find? name =
        (Dictionary.lastWritten? globalWrites name).or (start.globals.find? name)) ∧
      (∀ more, engine.filters.names ⊆ (engine.after more).filters.names ∧
        engine.includes.names ⊆ (engine.after more).includes.names ∧
        engine.globals.names ⊆ (engine.after more).globals.names) ∧
      engine.globals.names = start.globals.names ++
        Dictionary.newNames start.globals.names (Dictionary.names globalWrites) ∧
      engine.settings.delimiter =
        lastSet Operation.delimiter? operations start.settings.delimiter ∧
      engine.settings.compact = lastSet Operation.compact? operations start.settings.compact := by
  intro engine globalWrites
  have hengine : engine.toEnvironment = _ := toEnvironment_after start operations
  obtain ⟨hdelimiter, hdepth⟩ := settings_of_isFresh hfresh
  have hset : ∀ (operation : Operation H W) delimiter,
      operation.delimiter? = some delimiter → delimiter ≠ "" := by
    intro operation delimiter hdelimiter
    simpa using (Option.filter_eq_some_iff.mp hdelimiter).2
  refine ⟨⟨?_, ?_⟩, ?_, ?_, ?_, ?_, ?_, ?_, ?_⟩
  · rw [hengine]
    exact lastSet_of_forall (· ≠ "") hdelimiter hset operations
  · rw [hengine]
    exact hdepth
  · intro name
    rw [hengine, Dictionary.find?_merge]
  · intro name
    rw [hengine, Dictionary.find?_merge]
  · intro name
    rw [hengine, Dictionary.find?_merge]
  · intro more
    rw [toEnvironment_after engine more]
    exact ⟨Dictionary.names_subset_merge _ _, Dictionary.names_subset_merge _ _,
      Dictionary.names_subset_merge _ _⟩
  · rw [hengine, Dictionary.names_merge]
  · rw [hengine]
  · rw [hengine]

theorem registries_settings_after_configured :
    let config : Config Empty :=
      ⟨{ Settings.initial with delimiter := ":" }, [("site", .null), ("year", .null)], []⟩
    let operations : List (Operation Empty Unit) :=
      [.configure
          { Options.none with
            globals := [("name", .null), ("site", .bool true)]
            delimiter := some "" },
        .renderWith () "{{name|missing}}" .null { Options.none with compact := some true },
        .clone, .setGlobal "page" .null, .setGlobal "site" (.bool false), .clearCaptures]
    ∃ start : Engine Empty Unit, ofConfig config = .ok start ∧
      (start.after operations).settings.delimiter = ":" ∧
      (start.after operations).settings.compact = true ∧
      (start.after operations).globals.names = ["site", "year", "name", "page"] ∧
      (start.after operations).globals.find? "site" = some (.bool false) := by
  intro config operations
  refine ⟨_, rfl, ?_⟩
  obtain ⟨-, -, -, hfind, -, hnames, hdelimiter, hcompact⟩ :=
    registries_settings_after (.inr ⟨config, rfl⟩) operations
  rw [hdelimiter, hcompact, hnames, hfind]
  exact ⟨by decide, by decide, by decide, rfl⟩

end Engine

end BraceTemplate
