import BraceTemplate.Proofs.Engine.Agreement

/-!
# Policies on failing filters

A policy matters only where a filter fails.  A render under `propagate` that
ends in any other way is the render under `passthrough`, and under `passthrough`
a render fails by its limits alone.
-/

namespace BraceTemplate

def RenderError.IsFilter (error : RenderError) : Prop :=
  ∃ name cause, error = .filter name cause

namespace Chain

variable {H : Type} (filters : Dictionary (Filter H))

theorem runStep_agreesUnless (value : Value H) (step : Step) :
    AgreesUnless RenderError.IsFilter (runStep filters .propagate value step)
      (runStep filters .passthrough value step) := by
  intro captures
  unfold runStep
  cases applyStep filters value step captures with
  | mk outcome after =>
      cases outcome with
      | ok next => exact .inr rfl
      | error cause => exact .inl ⟨.filter step.name cause, after, ⟨_, _, rfl⟩, rfl⟩

theorem run_agreesUnless (chain : List Step) (value : Value H) :
    AgreesUnless RenderError.IsFilter (run filters .propagate chain value)
      (run filters .passthrough chain value) := by
  induction chain generalizing value with
  | nil => exact .refl _
  | cons step chain ih =>
      simp only [run, List.foldlM_cons]
      exact (runStep_agreesUnless filters value step).bind ih

theorem runStep_failsOnlyBy (policy : FailurePolicy) (value : Value H) (step : Step) :
    FailsOnlyBy RenderError.IsFilter (runStep filters policy value step) := by
  intro captures error after h
  unfold runStep at h
  cases happly : applyStep filters value step captures with
  | mk outcome middle =>
      rw [happly] at h
      cases outcome with
      | ok next => cases h
      | error cause =>
          cases policy with
          | passthrough => cases h
          | propagate =>
              cases h
              exact ⟨step.name, cause, rfl⟩

theorem run_failsOnlyBy (policy : FailurePolicy) (chain : List Step) (value : Value H) :
    FailsOnlyBy RenderError.IsFilter (run filters policy chain value) := by
  induction chain generalizing value with
  | nil => exact .pure value
  | cons step chain ih =>
      simp only [run, List.foldlM_cons]
      exact (runStep_failsOnlyBy filters policy value step).bind ih

theorem runStep_passthrough_failsOnlyBy (failure : RenderError → Prop) (value : Value H)
    (step : Step) : FailsOnlyBy failure (runStep filters .passthrough value step) := by
  intro captures error after h
  unfold runStep at h
  split at h <;> cases h

theorem run_passthrough_failsOnlyBy (failure : RenderError → Prop) (chain : List Step)
    (value : Value H) : FailsOnlyBy failure (run filters .passthrough chain value) := by
  -- for any `failure`, also for one that nothing is: the chain does not fail at all
  induction chain generalizing value with
  | nil => exact .pure value
  | cons step chain ih =>
      simp only [run, List.foldlM_cons]
      exact (runStep_passthrough_failsOnlyBy filters failure value step).bind ih

end Chain

def Environment.withPolicy {H W : Type} (env : Environment H W) (policy : FailurePolicy) :
    Environment H W :=
  { env with settings := { env.settings with onFilterError := policy } }

namespace Render

variable {H W : Type}

theorem pipe_agreesUnless (env : Environment H W) (chain : List Step) (value : Value H) :
    AgreesUnless RenderError.IsFilter (pipe (env.withPolicy .propagate) chain value)
      (pipe (env.withPolicy .passthrough) chain value) := by
  intro state
  unfold pipe
  rcases Chain.run_agreesUnless env.filters chain value state.captures with
    ⟨error, after, hfilter, hrun⟩ | hsame
  · left
    exact ⟨error, { state with captures := after }, hfilter, by simp [Environment.withPolicy, hrun]⟩
  · right
    simp [Environment.withPolicy, hsame]

theorem pipe_failsOnlyBy {env : Environment H W}
    (hpolicy : env.settings.onFilterError = .passthrough) (failure : RenderError → Prop)
    (chain : List Step) (value : Value H) : FailsOnlyBy failure (pipe env chain value) := by
  intro state error after h
  unfold pipe at h
  rw [hpolicy] at h
  cases hrun : Chain.run env.filters .passthrough chain value state.captures with
  | mk outcome captures =>
      rw [hrun] at h
      cases h
      exact Chain.run_passthrough_failsOnlyBy env.filters failure chain value _ _ _ hrun

variable [HostObject H]

theorem nodesText_agreesUnless (env : Environment H W) (budget : Nat) (nodes : List Node)
    (context : Value H) (loop : Option Iteration) :
    AgreesUnless RenderError.IsFilter
      (nodesText (env.withPolicy .propagate) budget nodes context loop)
      (nodesText (env.withPolicy .passthrough) budget nodes context loop) :=
  (agreement (env.withPolicy .propagate) (env.withPolicy .passthrough) rfl rfl rfl
    (pipe_agreesUnless env)).rel_nodesText (.refl _) budget nodes context loop

theorem nodesText_failsOnlyBy {env : Environment H W}
    (hpolicy : env.settings.onFilterError = .passthrough) (budget : Nat) (nodes : List Node)
    (context : Value H) (loop : Option Iteration) :
    FailsOnlyBy (· = .depthLimit env.settings.maxDepth)
      (nodesText env budget nodes context loop) := by
  refine (confinement _ env (pipe_failsOnlyBy hpolicy _)).rel_nodesText ?_ budget nodes context loop
  intro state error after h
  cases h
  rfl

end Render

namespace Engine

variable {H W : Type} [HostObject H]

/-- What a strict render gives, but for a failing filter, a lenient render gives too. -/
theorem render_passthrough_of_propagate (engine : Engine H W) (world : W) (template : String)
    (context : Value H)
    (hended : ∀ name cause,
      ((engine.setPolicy .propagate).render world template context).1 ≠
        .error (.filter name cause)) :
    (engine.setPolicy .passthrough).render world template context =
      let (outcome, after, world) :=
        (engine.setPolicy .propagate).render world template context
      (outcome, { engine.setPolicy .passthrough with captures := after.captures }, world) := by
  rcases Nat.lt_or_ge engine.settings.maxTemplateSize template.utf8ByteSize with hlarge | hsize
  · simp [render, setPolicy, hlarge]
  · have hnodes : AgreesUnless RenderError.IsFilter
        (Render.templateText (engine.setPolicy .propagate).toEnvironment
          engine.settings.maxDepth template.toList context none)
        (Render.templateText (engine.setPolicy .passthrough).toEnvironment
          engine.settings.maxDepth template.toList context none) :=
      Render.nodesText_agreesUnless engine.toEnvironment _ _ context none
    rcases render_of_agreesUnless (engine.setPolicy .propagate) (engine.setPolicy .passthrough)
        rfl rfl hsize hsize hnodes world with
      ⟨error, ⟨name, cause, rfl⟩, hfails⟩ | hsame
    · exact absurd hfails (hended name cause)
    · exact hsame

theorem render_passthrough_of_propagate_initial :
    let template := "{{items|reverse}}{{if .|set>last}}<{{/if}}{{/items}}{{if last}}!{{/if}}"
    let context := Value.map [("items", .array [.string "b", .string ""])]
    let result := ((initial : Engine Empty Unit).setPolicy .passthrough).render () template context
    result.1.toOption = some "<<!" ∧ result.2.1.captures.map Prod.fst = ["last"] := by
  intro template context result
  have hstrict :
      let result := ((initial : Engine Empty Unit).setPolicy .propagate).render () template context
      result.1.toOption = some "<<!" ∧ result.2.1.captures.map Prod.fst = ["last"] := by
    decide +kernel
  have hsame := render_passthrough_of_propagate (initial : Engine Empty Unit) () template context
    (by
      intro name cause hfails
      simp [hfails, Except.toOption] at hstrict)
  simp only [result, hsame]
  exact hstrict

private theorem outcome_of_passthrough (engine : Engine H W)
    (hpolicy : engine.settings.onFilterError = .passthrough) {template : String}
    (hsize : template.utf8ByteSize ≤ engine.settings.maxTemplateSize) (world : W)
    (context : Value H) :
    (∃ output, (engine.render world template context).1 = .ok output) ∨
      (engine.render world template context).1 = .error (.depthLimit engine.settings.maxDepth) := by
  have hnodes := Render.nodesText_failsOnlyBy hpolicy engine.settings.maxDepth
    (parseTemplate template.toList) context none ⟨engine.captures, world⟩
  rw [render_eq_map_run engine hsize, run, Render.templateText]
  cases hrun : Render.nodesText engine.toEnvironment engine.settings.maxDepth
      (parseTemplate template.toList) context none ⟨engine.captures, world⟩ with
  | mk outcome after =>
      cases outcome with
      | ok output => exact .inl ⟨_, rfl⟩
      | error error =>
          right
          rw [hnodes error after hrun]
          rfl

/--
A lenient render gives a text, or one of the two limits stops it: that on the
size before anything is rendered, or that on the depth.
-/
theorem render_of_passthrough (engine : Engine H W)
    (hpolicy : engine.settings.onFilterError = .passthrough) (world : W) (template : String)
    (context : Value H) :
    let result := engine.render world template context
    let tooLarge := RenderError.templateTooLarge template.utf8ByteSize
      engine.settings.maxTemplateSize
    ((∃ output, result.1 = .ok output) ∨ result.1 = .error tooLarge ∨
        result.1 = .error (.depthLimit engine.settings.maxDepth)) ∧
      ((∃ size limit, result.1 = .error (.templateTooLarge size limit)) ↔
        engine.settings.maxTemplateSize < template.utf8ByteSize) ∧
      (engine.settings.maxTemplateSize < template.utf8ByteSize →
        result = (.error tooLarge, engine, world)) ∧
      ∀ name cause, result.1 ≠ .error (.filter name cause) := by
  intro result tooLarge
  rcases Nat.lt_or_ge engine.settings.maxTemplateSize template.utf8ByteSize with hlarge | hsize
  · have hresult : result = (.error tooLarge, engine, world) := if_pos hlarge
    rw [hresult]
    simp [tooLarge, hlarge]
  · have houtcome := outcome_of_passthrough engine hpolicy hsize world context
    have hsmall := Nat.not_lt.mpr hsize
    rcases houtcome with ⟨output, hok⟩ | hdepth
    · refine ⟨.inl ⟨output, hok⟩, ?_, fun hlarge => absurd hlarge hsmall, ?_⟩
      · simp [result, hok, hsize]
      · simp [result, hok]
    · refine ⟨.inr (.inr hdepth), ?_, fun hlarge => absurd hlarge hsmall, ?_⟩
      · simp [result, hdepth, hsize]
      · simp [result, hdepth]

theorem render_of_passthrough_initial :
    let engine := (initial : Engine Empty Unit)
    let template := "{{items|nope}}{{if .|set}}<{{/if}}{{if x|first}}>{{/if}}{{/items}}"
    let result := engine.render () template (.map [("items", .array [.null])])
    engine.settings.onFilterError = .passthrough ∧ result.1.toOption = some "<>" ∧
      ∀ name cause, result.1 ≠ .error (.filter name cause) := by
  intro engine template result
  have hresult := render_of_passthrough engine rfl () template (.map [("items", .array [.null])])
  exact ⟨rfl, by decide +kernel, hresult.2.2.2⟩

end Engine

end BraceTemplate
