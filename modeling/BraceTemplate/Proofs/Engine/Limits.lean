import BraceTemplate.Proofs.Engine.Agreement
import BraceTemplate.Proofs.Engine.Depth

/-!
# Limits of a render

A limit can only stop a render.  One that no limit stopped gives the same under
all larger limits: however many levels are left, it does not ask how many.
-/

namespace BraceTemplate

variable {H W : Type}

def RenderError.IsDepthLimit (error : RenderError) : Prop := ∃ limit, error = .depthLimit limit

def Environment.withLimits (env : Environment H W) (depth size : Nat) : Environment H W :=
  { env with settings := { env.settings with maxDepth := depth, maxTemplateSize := size } }

namespace Render

variable [HostObject H]

theorem nodesText_agreesUnless_of_le (env : Environment H W) (depth size : Nat)
    {budget larger : Nat} (hle : budget ≤ larger) (nodes : List Node) (context : Value H)
    (loop : Option Iteration) :
    AgreesUnless RenderError.IsDepthLimit (nodesText env budget nodes context loop)
      (nodesText (env.withLimits depth size) larger nodes context loop) := by
  -- chains do not look at the limits, so only the lack of a level can tell the two apart
  have hpipe : ∀ chain value, AgreesUnless RenderError.IsDepthLimit (pipe env chain value)
      (pipe (env.withLimits depth size) chain value) := fun chain value => .refl _
  refine (agreement env (env.withLimits depth size) rfl rfl rfl hpipe).rel_nodesText_of_le
    (fun other state => .inl ?_) hle nodes context loop
  exact ⟨_, state, ⟨_, rfl⟩, rfl⟩

end Render

namespace Engine

def withLimits (engine : Engine H W) (depth size : Nat) : Engine H W :=
  { engine with toEnvironment := engine.toEnvironment.withLimits depth size }

variable [HostObject H]

/--
A render that ends in a text or in a failing filter ends so under all larger
limits, with the same captured values and in the same world; the recursion that
counts its depth does as well.
-/
theorem render_withLimits (engine : Engine H W) (world : W) (template : String)
    (context : Value H) {depth size : Nat} (hdepth : engine.settings.maxDepth ≤ depth)
    (hsize : engine.settings.maxTemplateSize ≤ size)
    (hended : (∃ output, (engine.render world template context).1 = .ok output) ∨
      ∃ name cause, (engine.render world template context).1 = .error (.filter name cause)) :
    let raised := engine.withLimits depth size
    let expected :=
      let (outcome, after, world) := engine.render world template context
      (outcome, { raised with captures := after.captures }, world)
    raised.render world template context = expected ∧
      raised.renderCounting world template context = expected := by
  intro raised expected
  suffices hraised : raised.render world template context = expected by
    exact ⟨hraised, raised.render_eq_renderCounting world template context ▸ hraised⟩
  rcases Nat.lt_or_ge engine.settings.maxTemplateSize template.utf8ByteSize with hlarge | hfits
  · have hstopped : engine.render world template context = _ := if_pos hlarge
    simp [hstopped] at hended
  · have hnodes := Render.nodesText_agreesUnless_of_le engine.toEnvironment depth size hdepth
      (parseTemplate template.toList) context none
    rcases render_of_agreesUnless engine raised rfl rfl hfits (Nat.le_trans hfits hsize)
        hnodes world with ⟨error, ⟨limit, rfl⟩, hfails⟩ | hsame
    · simp [hfails] at hended
    · exact hsame

theorem render_withLimits_initial :
    let row := "{{.|set>last}}\x7b\x7b.|\x60f\x60\x7d\x7d,"
    let template := "{{items}}{{row}}{{/items}}{{last}}"
    let context := Value.map [("items", .array [.string "ab", .string "cd"])]
    let engine := ((initial : Engine Empty Unit).registerInclude "row" (.text row)).setGlobal "f"
      (.string "reverse")
    let result := ((engine.withLimits 4 34).withLimits 64 100).render () template context
    ((engine.withLimits 3 34).render () template context).1.toOption = none ∧
      result.1.toOption = some "ba,dc,cd" ∧ result.2.1.captures.map Prod.fst = ["last"] := by
  intro row template context engine result
  have hended : ((engine.withLimits 4 34).render () template context).1.toOption =
      some "ba,dc,cd" := by
    decide +kernel
  have hraised := (render_withLimits (engine.withLimits 4 34) () template context
    (by decide : 4 ≤ 64) (by decide : 34 ≤ 100) (.inl ⟨_, eq_ok_of_toOption hended⟩)).1
  simp only [result, hraised]
  decide +kernel

end Engine

end BraceTemplate
