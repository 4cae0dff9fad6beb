import BraceTemplate.Proofs.Engine.Dependence
import BraceTemplate.Proofs.Text.Compaction

/-!
# Compact output

The setting for compact output is read once, when a render has succeeded.  It
takes the gaps out of the text that is there without it, and nothing else.
-/

namespace BraceTemplate

variable {H W : Type}

def Options.compaction (compact : Bool) : Options H W :=
  { Options.none with compact := some compact }

namespace Engine

variable [HostObject H]

theorem renderWith_compaction_eq_map (engine : Engine H W) (world : W) (template : String)
    (context : Value H) :
    let plain := engine.renderWith world template context (.compaction false)
    engine.renderWith world template context (.compaction true) =
      (plain.1.map (Value.mapText Text.compact),
        { engine.configure (.compaction true) with captures := plain.2.1.captures },
        plain.2.2) := by
  intro plain
  by_cases hlarge : engine.settings.maxTemplateSize < template.utf8ByteSize
  · have htooLarge : ∀ compact, engine.renderWith world template context (.compaction compact) =
        (.error (.templateTooLarge template.utf8ByteSize engine.settings.maxTemplateSize),
          engine.configure (.compaction compact), world) :=
      fun compact => if_pos hlarge
    simp only [plain, htooLarge]
    rfl
  · have halike : (engine.configure (.compaction true)).toEnvironment.Alike
        (engine.configure (.compaction false)).toEnvironment :=
      ⟨.refl _, rfl, rfl, rfl, rfl, rfl⟩
    have hnodes := Render.nodesText_of_alike halike
    have hsize := Nat.not_lt.mp hlarge
    have hcompacted := render_eq_map_run (engine.configure (.compaction true)) hsize world context
    have hplain := render_eq_run (engine.configure (.compaction false)) rfl hsize world context
    simp only [plain, renderWith]
    rw [hcompacted, hplain, run, run, Render.templateText, Render.templateText, hnodes]
    rfl

/--
A render with compact output ends as the one without it does, in the same state.
Its text is the other text without the characters in gaps, has no gaps and is
what compaction makes of itself.
-/
theorem renderWith_compaction (engine : Engine H W) (world : W) (template : String)
    (context : Value H) :
    let plain := engine.renderWith world template context (.compaction false)
    let compacted := engine.renderWith world template context (.compaction true)
    compacted.1 = plain.1.map (Value.mapText fun t => Text.dropPlaces (Text.InGap t) t) ∧
      compacted.2.1.captures = plain.2.1.captures ∧ compacted.2.2 = plain.2.2 ∧
      ∀ output, compacted.1 = .ok output →
        Text.NoGap output.toList ∧ Value.mapText Text.compact output = output := by
  intro plain compacted
  have hcompacted : compacted = (plain.1.map (Value.mapText Text.compact), _, plain.2.2) :=
    renderWith_compaction_eq_map engine world template context
  have hspec : (fun t => Text.dropPlaces (Text.InGap t) t) = Text.compact := by
    funext t
    exact (Text.compact_eq_dropPlaces t).symm
  rw [hspec, hcompacted]
  refine ⟨rfl, rfl, rfl, fun output houtput => ?_⟩
  cases hplain : plain.1 with
  | error error =>
      rw [hplain] at houtput
      cases houtput
  | ok text =>
      rw [hplain] at houtput
      cases houtput
      simp [Value.mapText, Text.noGap_compact, Text.compact_compact]

theorem renderWith_compaction_gaps :
    let engine : Engine Empty Unit := .initial
    let template := "<i>{{gap}}</i>\u2003<b> > x</b> >\n< "
    let context := Value.map [("gap", .string " \n")]
    let plain := engine.renderWith () template context (.compaction false)
    let compacted := engine.renderWith () template context (.compaction true)
    plain.1.toOption = some "<i> \n</i>\u2003<b> > x</b> >\n< " ∧
      compacted.1.toOption = some "<i></i><b> > x</b> >< " ∧
      Text.NoGap "<i></i><b> > x</b> >< ".toList ∧
      Value.mapText Text.compact "<i></i><b> > x</b> >< " = "<i></i><b> > x</b> >< " := by
  intro engine template context plain compacted
  have hcompacted : compacted.1.toOption = some "<i></i><b> > x</b> >< " := by decide +kernel
  obtain ⟨-, -, -, hfixed⟩ := renderWith_compaction engine () template context
  exact ⟨by decide +kernel, hcompacted, hfixed _ (eq_ok_of_toOption hcompacted)⟩

end Engine

end BraceTemplate
