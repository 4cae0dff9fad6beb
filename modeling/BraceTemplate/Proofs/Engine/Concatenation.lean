import BraceTemplate.Proofs.Engine.Rendering
import BraceTemplate.Proofs.Template.Concatenation

/-!
# Rendering concatenations

Rendering two texts in one document is rendering the first and then the second,
in the state that the first leaves, if no tag reaches over the seam: none can
start before it and end behind it, and no closer behind it closes what is opened
before it.
-/

namespace BraceTemplate

namespace Render

variable {H W : Type} [HostObject H]

private theorem nodesText_tree_prepend (env : Environment H W) (budget : Nat) (before : Text)
    (scan : Scan) (context : Value H) (loop : Option Iteration) :
    nodesText env budget (scan.prepend before).tree context loop =
      nodesText env budget (Node.ofLiteral before ++ scan.tree) context loop := by
  obtain ⟨t, nodes, htree, hprepend⟩ := tree_prepend scan
  rw [htree, hprepend, nodesText_ofLiteral_append]

theorem templateText_append (env : Environment H W) (budget : Nat) {first second : Text}
    (hsealed : (Scan.ofText first).Sealed)
    (hapart : Apart (Scan.ofText first).tags (Scan.ofText second).tags)
    (context : Value H) (loop : Option Iteration) :
    templateText env budget (first ++ second) context loop = do
      let a ← templateText env budget first context loop
      let b ← templateText env budget second context loop
      return a ++ b := by
  have htree : parseTemplate first ++ parseTemplate second =
      treeOfTags (Scan.ofText first).tagged [] ++
        (Node.ofLiteral (Scan.ofText first).rest ++ (Scan.ofText second).tree) := by
    rw [parseTemplate_eq_tree, parseTemplate_eq_tree, Scan.tree,
      treeOfTags_eq_append_ofLiteral, List.append_assoc]
  unfold templateText
  rw [← nodesText_append, htree, parseTemplate_append hsealed hapart, nodesText_append,
    nodesText_tree_prepend, ← nodesText_append]

end Render

namespace Engine

variable {H W : Type}

theorem run_append (engine : Engine H W) (world : W) (first second : Rendering H W String) :
    (engine.run world do
      let a ← first
      let b ← second
      return a ++ b) =
      match engine.run world first with
      | (.error error, after) => (.error error, after)
      | (.ok a, after, world) =>
          let (outcome, after) := after.run world second
          (outcome.map (a ++ ·), after) := by
  unfold run
  rw [Render.bind_apply]
  cases first ⟨engine.captures, world⟩ with
  | mk outcome state =>
      cases outcome with
      | error error => rfl
      | ok a =>
          simp only [Render.bind_apply]
          cases second ⟨state.captures, state.world⟩ with
          | mk outcome state => cases outcome <;> rfl

variable [HostObject H]

/--
A document cut where nothing reaches over the seam renders as its parts one
after the other, the second from the captured values that the first leaves; an
error of the first part is the outcome.
-/
theorem render_append {first second : String} (hsealed : (Scan.ofText first.toList).Sealed)
    (hapart : Apart (Scan.ofText first.toList).tags (Scan.ofText second.toList).tags) :
    (∀ (engine : Engine H W) (world : W) (context : Value H),
      engine.settings.compact = false →
      (first ++ second).utf8ByteSize ≤ engine.settings.maxTemplateSize →
      engine.render world (first ++ second) context =
        match engine.render world first context with
        | (.error error, after) => (.error error, after)
        | (.ok a, after, world) =>
            let (outcome, after) := after.render world second context
            (outcome.map (a ++ ·), after)) ∧
    (∀ (env : Environment H W) (budget : Nat) (context : Value H) (loop : Option Iteration),
      Render.templateText env budget (first.toList ++ second.toList) context loop = do
        let a ← Render.templateText env budget first.toList context loop
        let b ← Render.templateText env budget second.toList context loop
        return a ++ b) := by
  constructor
  · intro engine world context hcompact hsize
    have hparts := hsize
    rw [String.utf8ByteSize_append] at hparts
    have hfirst : first.utf8ByteSize ≤ engine.settings.maxTemplateSize := by omega
    have hsmall : second.utf8ByteSize ≤ engine.settings.maxTemplateSize := by omega
    -- the engine that the first part leaves has other captures and the same environment
    have hsecond : ∀ captures world,
        render ⟨engine.toEnvironment, captures⟩ world second context =
          run ⟨engine.toEnvironment, captures⟩ world (Render.templateText engine.toEnvironment
            engine.settings.maxDepth second.toList context none) := by
      intro captures world
      exact render_eq_run ⟨engine.toEnvironment, captures⟩ hcompact hsmall world context
    rw [render_eq_run engine hcompact hsize, render_eq_run engine hcompact hfirst,
      String.toList_append, Render.templateText_append _ _ hsealed hapart, run_append]
    unfold run
    cases Render.templateText engine.toEnvironment engine.settings.maxDepth first.toList context
        none ⟨engine.captures, world⟩ with
    | mk outcome state =>
        cases outcome with
        | error error => rfl
        | ok a =>
            simp only [hsecond]
            rfl
  · intro env budget context loop
    exact Render.templateText_append env budget hsealed hapart context loop

theorem render_append_initial :
    let first := "{{if name|set>n}}{{if x}}p{{/if}}q"
    let second := "{{n}}r{{/n}}{{/m}}"
    let context := Value.map [("name", .string "s")]
    let result := (initial : Engine Empty Unit).render () (first ++ second) context
    result.1.toOption = some "pqr???" ∧ result.2.1.captures.map Prod.fst = ["n"] := by
  intro first second context result
  have happend := (@render_append Empty Unit _ first second (by decide +kernel)
    (by decide +kernel)).1 initial () context rfl (by decide +kernel)
  simp only [result, happend]
  decide +kernel

end Engine

end BraceTemplate
