import BraceTemplate.Proofs.Engine.Agreement
import BraceTemplate.Proofs.Engine.History

/-!
# What renders depend on

A render asks its environment for filters by their names, for includes, globals
and a few settings, and for nothing else.  The step that captures is known
before any filter is looked up, so that a filter under its name is never asked
for: neither a render nor a whole history of an engine can tell whether there is
one.
-/

namespace BraceTemplate

variable {H W : Type}

/-! ## Chains -/

def FiltersAlike (first second : Dictionary (Filter H)) : Prop :=
  ∀ name, name ≠ Chain.captureStep → first.find? name = second.find? name

namespace FiltersAlike

theorem refl (filters : Dictionary (Filter H)) : FiltersAlike filters filters := fun _ _ => rfl

theorem insert_captureStep (filters : Dictionary (Filter H)) (filter : Filter H) :
    FiltersAlike (filters.insert Chain.captureStep filter) filters := by
  intro name hname
  rw [Dictionary.find?_insert, if_neg hname]

theorem insert {first second : Dictionary (Filter H)} (h : FiltersAlike first second)
    (name : String) (filter : Filter H) :
    FiltersAlike (first.insert name filter) (second.insert name filter) := by
  intro other hother
  rw [Dictionary.find?_insert, Dictionary.find?_insert, h other hother]

theorem merge {first second writes others : Dictionary (Filter H)} (h : FiltersAlike first second)
    (hwrites : FiltersAlike writes.reverse others.reverse) :
    FiltersAlike (first.merge writes) (second.merge others) := by
  intro name hname
  rw [Dictionary.find?_merge, Dictionary.find?_merge, Dictionary.lastWritten?,
    Dictionary.lastWritten?, h name hname, hwrites name hname]

theorem reverse_insert_captureStep (filters : Dictionary (Filter H)) (filter : Filter H) :
    FiltersAlike (filters.insert Chain.captureStep filter).reverse filters.reverse := by
  intro name hname
  induction filters with
  | nil => simp [Dictionary.insert, Dictionary.find?_cons, hname]
  | cons entry rest ih =>
      obtain ⟨key, old⟩ := entry
      unfold Dictionary.insert
      split
      · rename_i hkey
        simp [Dictionary.find?_append, Dictionary.find?_cons, hkey, hname]
      · rw [List.reverse_cons, List.reverse_cons, Dictionary.find?_append,
          Dictionary.find?_append, ih]

end FiltersAlike

theorem Chain.applyStep_of_filtersAlike {first second : Dictionary (Filter H)}
    (h : FiltersAlike first second) (value : Value H) (step : Step) :
    applyStep first value step = applyStep second value step := by
  unfold applyStep
  split
  · rfl
  · rename_i hname
    rw [h step.name hname]

theorem Chain.run_of_filtersAlike {first second : Dictionary (Filter H)}
    (h : FiltersAlike first second) (policy : FailurePolicy) (chain : List Step)
    (value : Value H) : run first policy chain value = run second policy chain value := by
  have hstep : runStep first policy = runStep second policy := by
    funext value step captures
    rw [runStep, runStep, Chain.applyStep_of_filtersAlike h]
  rw [run, run, hstep]

/-! ## Renders of nodes -/

/-- The environments give the same answers to all that the render of a node asks for. -/
structure Environment.Alike (first second : Environment H W) : Prop where
  filters : FiltersAlike first.filters second.filters
  includes : first.includes = second.includes
  globals : first.globals = second.globals
  delimiter : first.settings.delimiter = second.settings.delimiter
  policy : first.settings.onFilterError = second.settings.onFilterError
  maxDepth : first.settings.maxDepth = second.settings.maxDepth

theorem AgreesUnless.eq {σ α : Type} {first second : ExceptT RenderError (StateM σ) α}
    (h : AgreesUnless (fun _ => False) first second) : first = second := by
  funext state
  rcases h state with ⟨error, after, hfalse, -⟩ | hsame
  · exact hfalse.elim
  · exact hsame.symm

theorem Render.nodesText_of_alike [HostObject H] {first second : Environment H W}
    (h : first.Alike second) (budget : Nat) (nodes : List Node) (context : Value H)
    (loop : Option Iteration) :
    nodesText first budget nodes context loop = nodesText second budget nodes context loop := by
  have hpipe : ∀ chain value, pipe first chain value = pipe second chain value := by
    intro chain value
    funext state
    rw [pipe, pipe, h.policy, Chain.run_of_filtersAlike h.filters]
  have hlimit : (throw (.depthLimit first.settings.maxDepth) : Rendering H W String) =
      throw (.depthLimit second.settings.maxDepth) := by
    rw [h.maxDepth]
  have hagree : AgreesUnless (fun _ => False) (nodesText first budget nodes context loop)
      (nodesText second budget nodes context loop) :=
    (agreement first second h.includes h.globals h.delimiter
      fun chain value => hpipe chain value ▸ .refl _).rel_nodesText (hlimit ▸ .refl _)
        budget nodes context loop
  exact hagree.eq

/-! ## Histories -/

def Options.withFilter (options : Options H W) (name : String) (filter : Filter H) :
    Options H W :=
  { options with filters := options.filters.insert name filter }

def Operation.outcome? [HostObject H] (engine : Engine H W) :
    Operation H W → Option (Except RenderError String × W)
  | render world template context =>
      let (outcome, _, after) := engine.render world template context
      some (outcome, after)
  | renderWith world template context options =>
      let (outcome, _, after) := engine.renderWith world template context options
      some (outcome, after)
  | _ => none

namespace Engine

/-- What can be seen of operations in turn, with the values captured after each. -/
def transcript [HostObject H] (engine : Engine H W) :
    List (Operation H W) →
      List (Option (Except RenderError String × W) × Dictionary (Value H))
  | [] => []
  | operation :: operations =>
      let after := operation.perform engine
      (operation.outcome? engine, after.captures) :: after.transcript operations

structure Alike (first second : Engine H W) : Prop where
  filters : FiltersAlike first.filters second.filters
  includes : first.includes = second.includes
  globals : first.globals = second.globals
  settings : first.settings = second.settings
  captures : first.captures = second.captures

namespace Alike

variable {first second : Engine H W}

theorem refl (engine : Engine H W) : engine.Alike engine := ⟨.refl _, rfl, rfl, rfl, rfl⟩

theorem toEnvironment (h : first.Alike second) :
    first.toEnvironment.Alike second.toEnvironment := by
  constructor
  · exact h.filters
  · exact h.includes
  · exact h.globals
  all_goals rw [h.settings]

theorem configure (h : first.Alike second) {options : Options H W} {writes : Registry H}
    (hwrites : FiltersAlike writes.reverse options.filters.reverse) :
    (first.configure { options with filters := writes }).Alike (second.configure options) := by
  constructor
  · exact h.filters.merge hwrites
  all_goals simp only [Engine.configure, h.includes, h.globals, h.settings, h.captures]

variable [HostObject H]

theorem render (h : first.Alike second) (world : W) (template : String) (context : Value H) :
    let one := first.render world template context
    let other := second.render world template context
    one.1 = other.1 ∧ one.2.2 = other.2.2 ∧ one.2.1.Alike other.2.1 := by
  intro one other
  have hnodes := Render.nodesText_of_alike h.toEnvironment
  unfold one other Engine.render
  simp only [h.settings, h.captures, hnodes]
  split
  · exact ⟨rfl, rfl, h⟩
  · exact ⟨rfl, rfl, h.filters, h.includes, h.globals, h.settings, rfl⟩

theorem perform (h : first.Alike second) (operation : Operation H W) :
    operation.outcome? first = operation.outcome? second ∧
      (operation.perform first).Alike (operation.perform second) := by
  cases operation with
  | configure options => exact ⟨rfl, h.configure (.refl _)⟩
  | registerFilter name filter =>
      exact ⟨rfl, h.filters.insert name filter, h.includes, h.globals, h.settings, h.captures⟩
  | registerInclude name inclusion =>
      refine ⟨rfl, h.filters, ?_, h.globals, h.settings, h.captures⟩
      exact congrArg (Dictionary.insert · name inclusion) h.includes
  | setGlobal name value =>
      refine ⟨rfl, h.filters, h.includes, ?_, h.settings, h.captures⟩
      exact congrArg (Dictionary.insert · name value) h.globals
  | setPolicy policy =>
      refine ⟨rfl, h.filters, h.includes, h.globals, ?_, h.captures⟩
      simp only [Operation.perform, Engine.setPolicy, h.settings]
  | clearCaptures => exact ⟨rfl, h.filters, h.includes, h.globals, h.settings, rfl⟩
  | render world template context =>
      obtain ⟨houtcome, hworld, halike⟩ := h.render world template context
      exact ⟨by simp only [Operation.outcome?, houtcome, hworld], halike⟩
  | renderWith world template context options =>
      obtain ⟨houtcome, hworld, halike⟩ :=
        Alike.render (h.configure (.refl options.filters.reverse)) world template context
      exact ⟨by simp only [Operation.outcome?, renderWith, houtcome, hworld], halike⟩
  | clone => exact ⟨rfl, h⟩

theorem transcript (h : first.Alike second) (operations : List (Operation H W)) :
    first.transcript operations = second.transcript operations := by
  induction operations generalizing first second with
  | nil => rfl
  | cons operation operations ih =>
      obtain ⟨houtcome, halike⟩ := h.perform operation
      rw [Engine.transcript, Engine.transcript, houtcome, halike.captures, ih halike]

end Alike

/--
Whether a filter stands under the name of the step that captures can never be
seen, however it came there and whatever is done with the engine afterwards.
-/
theorem transcript_captureStep [HostObject H] (engine : Engine H W) (filter : Filter H)
    (operations : List (Operation H W)) :
    (engine.registerFilter Chain.captureStep filter).transcript operations =
        engine.transcript operations ∧
      (∀ options : Options H W,
        (engine.configure (options.withFilter Chain.captureStep filter)).transcript operations =
          (engine.configure options).transcript operations) ∧
      ∀ world template context options,
        engine.transcript (.renderWith world template context
            (options.withFilter Chain.captureStep filter) :: operations) =
          engine.transcript (.renderWith world template context options :: operations) := by
  have hconfigure : ∀ options : Options H W,
      (engine.configure (options.withFilter Chain.captureStep filter)).Alike
        (engine.configure options) :=
    fun options =>
      (Alike.refl engine).configure (.reverse_insert_captureStep options.filters filter)
  refine ⟨?_, fun options => (hconfigure options).transcript operations, ?_⟩
  · have hregister : (engine.registerFilter Chain.captureStep filter).Alike engine :=
      ⟨.insert_captureStep engine.filters filter, rfl, rfl, rfl, rfl⟩
    exact hregister.transcript operations
  · intro world template context options
    obtain ⟨houtcome, hworld, halike⟩ := (hconfigure options).render world template context
    simp only [transcript, Operation.outcome?, Operation.perform, renderWith, houtcome, hworld,
      halike.captures, halike.transcript]

example :
    let engine := (initial : Engine Empty Unit).registerFilter "set" Filter.upcase
    let context := Value.map [("word", .string "w"), ("step", .string "set")]
    (engine.render () "\x7b\x7bword| `step`>k\x7d\x7d{{k}}" context).1.toOption = some "w" := by
  decide +kernel

end Engine

end BraceTemplate
