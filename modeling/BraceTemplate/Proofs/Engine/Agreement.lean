import BraceTemplate.Proofs.Engine.Simulation

/-!
# Runs that agree until one fails

Two computations agree unless the first fails in a given way, and a computation
fails in given ways only: sequencing keeps both, so that both give simulations.
-/

namespace BraceTemplate

section Sequencing

variable {σ α β : Type} {failure : RenderError → Prop}

/-- The second does what the first does, or the first fails in one of the given ways. -/
def AgreesUnless (failure : RenderError → Prop) (first second : ExceptT RenderError (StateM σ) α) :
    Prop :=
  ∀ state, (∃ error after, failure error ∧ first state = (.error error, after)) ∨
    second state = first state

def FailsOnlyBy (failure : RenderError → Prop) (first : ExceptT RenderError (StateM σ) α) :
    Prop :=
  ∀ state error after, first state = (.error error, after) → failure error

namespace AgreesUnless

theorem refl (first : ExceptT RenderError (StateM σ) α) : AgreesUnless failure first first :=
  fun _ => .inr rfl

theorem bind {first second : ExceptT RenderError (StateM σ) α}
    {next other : α → ExceptT RenderError (StateM σ) β} (h : AgreesUnless failure first second)
    (hnext : ∀ a, AgreesUnless failure (next a) (other a)) :
    AgreesUnless failure (first >>= next) (second >>= other) := by
  intro state
  rw [Render.bind_apply, Render.bind_apply]
  rcases h state with ⟨error, after, hfailure, hfirst⟩ | hsame
  · left
    exact ⟨error, after, hfailure, by rw [hfirst]⟩
  · rw [hsame]
    cases first state with
    | mk outcome after =>
        cases outcome with
        | error error => exact .inr rfl
        | ok a => exact hnext a after

end AgreesUnless

namespace FailsOnlyBy

theorem pure (a : α) : FailsOnlyBy failure (pure a : ExceptT RenderError (StateM σ) α) := by
  intro state error after h
  cases h

theorem bind {first : ExceptT RenderError (StateM σ) α}
    {next : α → ExceptT RenderError (StateM σ) β} (h : FailsOnlyBy failure first)
    (hnext : ∀ a, FailsOnlyBy failure (next a)) : FailsOnlyBy failure (first >>= next) := by
  intro state error after hrun
  rw [Render.bind_apply] at hrun
  cases hfirst : first state with
  | mk outcome middle =>
      rw [hfirst] at hrun
      cases outcome with
      | error cause =>
          cases hrun
          exact h state error after hfirst
      | ok a => exact hnext a middle error after hrun

end FailsOnlyBy

end Sequencing

namespace Render

variable {H W : Type}

def agreement {failure : RenderError → Prop} (first second : Environment H W)
    (hincludes : first.includes = second.includes) (hglobals : first.globals = second.globals)
    (hdelimiter : first.settings.delimiter = second.settings.delimiter)
    (hpipe : ∀ chain value,
      AgreesUnless failure (pipe first chain value) (pipe second chain value)) :
    Simulation first second where
  Rel := AgreesUnless failure
  rel_pure a := .refl (pure a)
  rel_bind := .bind
  rel_get h state := h state state rfl state
  rel_includeSource name := by
    rw [hincludes]
    cases second.includes.find? name with
    | none => exact .none
    | some inclusion => exact .some (.refl _)
  rel_pipe := hpipe
  globals_eq := hglobals
  delimiter_eq := hdelimiter

def confinement (failure : RenderError → Prop) (env : Environment H W)
    (hpipe : ∀ chain value, FailsOnlyBy failure (pipe env chain value)) : Simulation env env :=
  .ofProperty (FailsOnlyBy failure) .pure .bind (fun h state => h state state)
    (fun inclusion state error after h => by cases h) hpipe

end Render

namespace Engine

variable {H W : Type} [HostObject H]

theorem render_of_agreesUnless {failure : RenderError → Prop} (first second : Engine H W)
    {template : String} {context : Value H} (hcaptures : first.captures = second.captures)
    (hcompact : first.settings.compact = second.settings.compact)
    (hfirst : template.utf8ByteSize ≤ first.settings.maxTemplateSize)
    (hsecond : template.utf8ByteSize ≤ second.settings.maxTemplateSize)
    (hagree : AgreesUnless failure
      (Render.templateText first.toEnvironment first.settings.maxDepth template.toList context none)
      (Render.templateText second.toEnvironment second.settings.maxDepth template.toList context
        none))
    (world : W) :
    (∃ error, failure error ∧ (first.render world template context).1 = .error error) ∨
      second.render world template context =
        let (outcome, after, world) := first.render world template context
        (outcome, { second with captures := after.captures }, world) := by
  have hfinish : finishOutput second.settings = finishOutput first.settings := by
    unfold finishOutput
    rw [hcompact]
  rw [render_eq_map_run first hfirst, render_eq_map_run second hsecond, run, run, hfinish,
    ← hcaptures]
  rcases hagree ⟨first.captures, world⟩ with ⟨error, after, hfailure, hfails⟩ | hsame
  · left
    exact ⟨error, hfailure, by rw [hfails]; rfl⟩
  · right
    rw [hsame]
    rfl

end Engine

end BraceTemplate
