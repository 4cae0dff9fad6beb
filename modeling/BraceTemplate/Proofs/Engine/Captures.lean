import BraceTemplate.Proofs.Engine.History
import BraceTemplate.Proofs.Engine.Simulation
import BraceTemplate.Proofs.Text.Trim

/-!
# Captured values

A render only adds to the captured values: names that were there stay in their
places, whatever fails, and new ones follow.  A name is trimmed before anything
is captured under it, so that no history leads to one with blanks around it.
-/

namespace BraceTemplate

variable {H W : Type}

/-! ## Names -/

structure IsTrimmed (name : String) : Prop where
  ne_empty : name ≠ ""
  not_blank_head : ∀ c, name.toList.head? = some c → Text.isBlank c = false
  not_blank_last : ∀ c, name.toList.getLast? = some c → Text.isBlank c = false

theorem isTrimmed_trim {t : Text} (h : Text.trim t ≠ []) :
    IsTrimmed (String.ofList (Text.trim t)) := by
  constructor
  · simpa using h
  · intro c hc
    rw [String.toList_ofList] at hc
    exact Text.not_blank_of_head?_trim hc
  · intro c hc
    rw [String.toList_ofList] at hc
    exact Text.not_blank_of_getLast?_trim hc

/-! ## What accretes -/

/-- No name is lost or moved, and the new names are trimmed. -/
structure Accretes (before after : Dictionary (Value H)) : Prop where
  names_kept : before.names <+: after.names
  names_trimmed : (∀ name ∈ before.names, IsTrimmed name) → ∀ name ∈ after.names, IsTrimmed name

namespace Accretes

theorem refl (captures : Dictionary (Value H)) : Accretes captures captures :=
  ⟨List.prefix_rfl, id⟩

theorem trans {first second third : Dictionary (Value H)} (h : Accretes first second)
    (hnext : Accretes second third) : Accretes first third :=
  ⟨h.names_kept.trans hnext.names_kept, fun hfirst => hnext.names_trimmed (h.names_trimmed hfirst)⟩

theorem insert (captures : Dictionary (Value H)) {name : String} (h : IsTrimmed name)
    (value : Value H) : Accretes captures (captures.insert name value) := by
  refine ⟨captures.names_prefix_insert name value, fun htrimmed other hother => ?_⟩
  rw [Dictionary.names_insert] at hother
  split at hother
  · exact htrimmed other hother
  · rcases List.mem_append.mp hother with hold | hnew
    · exact htrimmed other hold
    · rw [List.mem_singleton.mp hnew]
      exact h

end Accretes

def Accreting {σ ε α : Type} (captures : σ → Dictionary (Value H)) (run : ExceptT ε (StateM σ) α) :
    Prop :=
  ∀ state, Accretes (captures state) (captures (run state).2)

namespace Accreting

variable {σ ε α β : Type} {captures : σ → Dictionary (Value H)}

theorem pure (a : α) : Accreting captures (pure a : ExceptT ε (StateM σ) α) :=
  fun state => .refl (captures state)

theorem bind {run : ExceptT ε (StateM σ) α} {next : α → ExceptT ε (StateM σ) β}
    (h : Accreting captures run) (hnext : ∀ a, Accreting captures (next a)) :
    Accreting captures (run >>= next) := by
  intro state
  rw [Render.bind_apply]
  have hrun := h state
  cases hfirst : run state with
  | mk outcome middle =>
      rw [hfirst] at hrun
      cases outcome with
      | error error => exact hrun
      | ok a => exact hrun.trans (hnext a middle)

end Accreting

/-! ## Chains -/

namespace Chain

theorem capture_accreting (value : Value H) (arguments : List String) :
    Accreting id (capture value arguments) := by
  intro captures
  unfold capture
  by_cases hempty : Text.trim (arguments.headD "").toList = []
  · rw [if_pos (by simpa using hempty)]
    exact .refl captures
  · rw [if_neg (by simpa using hempty)]
    exact .insert captures (isTrimmed_trim hempty) value

theorem applyStep_accreting (filters : Dictionary (Filter H)) (value : Value H) (step : Step) :
    Accreting id (applyStep filters value step) := by
  unfold applyStep
  split
  · exact capture_accreting value step.arguments
  · -- a filter does not see the captured values
    cases filters.find? step.name <;> exact fun captures => .refl captures

theorem runStep_accreting (filters : Dictionary (Filter H)) (policy : FailurePolicy)
    (value : Value H) (step : Step) : Accreting id (runStep filters policy value step) := by
  intro captures
  have hstep := applyStep_accreting filters value step captures
  unfold runStep
  cases happly : applyStep filters value step captures with
  | mk outcome after =>
      rw [happly] at hstep
      cases outcome with
      | ok next => exact hstep
      | error cause => cases policy <;> exact hstep

theorem run_accreting (filters : Dictionary (Filter H)) (policy : FailurePolicy)
    (chain : List Step) (value : Value H) : Accreting id (run filters policy chain value) := by
  induction chain generalizing value with
  | nil => exact .pure value
  | cons step chain ih =>
      simp only [run, List.foldlM_cons]
      exact (runStep_accreting filters policy value step).bind ih

end Chain

/-! ## Renders -/

namespace Render

def accretion (env : Environment H W) : Simulation env env :=
  .ofProperty (Accreting RenderState.captures) .pure .bind (fun h state => h state state)
    (fun _ state => .refl state.captures) fun chain value state =>
      Chain.run_accreting env.filters env.settings.onFilterError chain value state.captures

variable [HostObject H]

theorem nodesText_accreting (env : Environment H W) (budget : Nat) (nodes : List Node)
    (context : Value H) (loop : Option Iteration) :
    Accreting RenderState.captures (nodesText env budget nodes context loop) :=
  (accretion env).rel_nodesText (fun state => .refl state.captures) budget nodes context loop

end Render

namespace Engine

variable [HostObject H]

theorem render_accretes (engine : Engine H W) (world : W) (template : String)
    (context : Value H) :
    Accretes engine.captures (engine.render world template context).2.1.captures := by
  by_cases hlarge : engine.settings.maxTemplateSize < template.utf8ByteSize
  · rw [render, if_pos hlarge]
    exact .refl engine.captures
  · rw [render, if_neg hlarge]
    exact Render.nodesText_accreting engine.toEnvironment engine.settings.maxDepth
      (parseTemplate template.toList) context none ⟨engine.captures, world⟩

theorem perform_names_trimmed {engine : Engine H W}
    (h : ∀ name ∈ engine.captures.names, IsTrimmed name) (operation : Operation H W) :
    ∀ name ∈ (operation.perform engine).captures.names, IsTrimmed name := by
  cases operation with
  | clearCaptures => exact fun name hname => absurd hname List.not_mem_nil
  | render world template context =>
      exact (engine.render_accretes world template context).names_trimmed h
  | renderWith world template context options =>
      exact ((engine.configure options).render_accretes world template context).names_trimmed h
  | _ => exact h

/--
After any operations values are captured under trimmed names only, and a render
that follows, whether it fails or not, leaves their names in place before all
that it adds.
-/
theorem captures_after {start : Engine H W} (hfresh : start.IsFresh)
    (operations : List (Operation H W)) :
    let engine := start.after operations
    (∀ name ∈ engine.captures.names, IsTrimmed name) ∧
      ∀ world template context,
        engine.captures.names <+: (engine.render world template context).2.1.captures.names := by
  intro engine
  refine ⟨?_, fun world template context =>
    (engine.render_accretes world template context).names_kept⟩
  have general : ∀ first : Engine H W, (∀ name ∈ first.captures.names, IsTrimmed name) →
      ∀ name ∈ (first.after operations).captures.names, IsTrimmed name := by
    induction operations with
    | nil => exact fun first h => h
    | cons operation operations ih =>
        intro first h
        exact ih _ (perform_names_trimmed h operation)
  apply general start
  rw [captures_of_isFresh hfresh]
  exact fun name hname => absurd hname List.not_mem_nil

theorem captures_after_failing :
    let operations : List (Operation Empty Unit) :=
      [.setPolicy .propagate, .render () "{{.|set> a b }}{{.|set>c}}{{.|missing}}" (.bool true)]
    let engine := (initial : Engine Empty Unit).after operations
    let second := (engine.render () "{{if c|set>d}}{{.|set>c|set>e}}{{/if}}{{.|missing}}" .null).2.1
    engine.captures.names = ["a b", "c"] ∧ second.captures.names = ["a b", "c", "d", "e"] ∧
      (∀ name ∈ engine.captures.names, IsTrimmed name) ∧
      engine.captures.names <+: second.captures.names := by
  intro operations engine second
  obtain ⟨htrimmed, hprefix⟩ :=
    @captures_after Empty Unit _ initial (.inl rfl) operations
  exact ⟨by decide +kernel, by decide +kernel, htrimmed, hprefix _ _ _⟩

end Engine

end BraceTemplate
