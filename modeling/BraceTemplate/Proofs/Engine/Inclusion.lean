import BraceTemplate.Proofs.Engine.Block
import BraceTemplate.Proofs.Engine.Concatenation
import BraceTemplate.Proofs.Engine.Limits

/-!
# Includes

A tag that names an include stands for the text of the include.  Where nothing
reaches from one part of the document into another, a document with the tag
renders as the document with the text in its place.  The text alone is rendered
one level deeper behind its tag; this can stop a render, and changes nothing
else.
-/

namespace BraceTemplate

def referenceTag (name : String) : Tag := ⟨name.toList⟩

/-- What names an include in a tag of its own, with no chain and no segments. -/
structure IsReference (delimiter : Text) (name : String) : Prop where
  standalone : (referenceTag name).Standalone
  isExpression : (referenceTag name).kind = .expression name.toList false
  noSegment : Backtick.mark ∉ name.toList
  read_eq : Directive.read delimiter name.toList false = ⟨false, name, [], false⟩

instance (delimiter : Text) (name : String) : Decidable (IsReference delimiter name) :=
  decidable_of_iff
    ((referenceTag name).Standalone ∧
      (referenceTag name).kind = .expression name.toList false ∧
      Backtick.mark ∉ name.toList ∧
      Directive.read delimiter name.toList false = ⟨false, name, [], false⟩)
    ⟨fun h => ⟨h.1, h.2.1, h.2.2.1, h.2.2.2⟩,
      fun h => ⟨h.standalone, h.isExpression, h.noSegment, h.read_eq⟩⟩

/-- Nothing reaches from a text into what follows it, be it a reference or what this stands for. -/
structure IsSurrounded (name : String) (first source second : Text) : Prop where
  first_sealed : (Scan.ofText first).Sealed
  source_sealed : (Scan.ofText source).Sealed
  first_apart_source : Apart (Scan.ofText first).tags (Scan.ofText source).tags
  first_apart_second : Apart (Scan.ofText first).tags (Scan.ofText second).tags
  source_apart_second : Apart (Scan.ofText source).tags (Scan.ofText second).tags
  name_not_closed : ∀ tag ∈ (Scan.ofText second).tags, tag.closes name.toList = false

instance (name : String) (first source second : Text) :
    Decidable (IsSurrounded name first source second) :=
  decidable_of_iff
    ((Scan.ofText first).Sealed ∧ (Scan.ofText source).Sealed ∧
      Apart (Scan.ofText first).tags (Scan.ofText source).tags ∧
      Apart (Scan.ofText first).tags (Scan.ofText second).tags ∧
      Apart (Scan.ofText source).tags (Scan.ofText second).tags ∧
      ∀ tag ∈ (Scan.ofText second).tags, tag.closes name.toList = false)
    ⟨fun h => ⟨h.1, h.2.1, h.2.2.1, h.2.2.2.1, h.2.2.2.2.1, h.2.2.2.2.2⟩,
      fun h => ⟨h.first_sealed, h.source_sealed, h.first_apart_source, h.first_apart_second,
        h.source_apart_second, h.name_not_closed⟩⟩

namespace IsReference

variable {delimiter : Text} {name : String} (h : IsReference delimiter name)

include h

theorem openingToken? : (referenceTag name).openingToken? = some name.toList := by
  have hplain : isConditional name.toList = false := by
    have hread := congrArg Directive.conditional h.read_eq
    rwa [Directive.conditional_read] at hread
  have hpath : (Directive.read delimiter name.toList false).path = String.ofList name.toList := by
    rw [h.read_eq, String.ofList_toList]
  rw [Tag.openingToken?_eq_some_iff]
  exact ⟨h.isExpression, (blockToken_of_path_read hplain hpath).symm⟩

theorem parseTemplate : parseTemplate (referenceTag name).text =
    [.directive ⟨referenceTag name, name.toList, false⟩] := by
  rw [h.standalone.parseTemplate_eq, Tag.node, h.isExpression]

end IsReference

namespace Render

variable {H W : Type} [HostObject H]

/-! ## Three texts -/

theorem templateText_append_append (env : Environment H W) (budget : Nat)
    {first middle second : Text} (hfirst : (Scan.ofText first).Sealed)
    (hmiddle : (Scan.ofText middle).Sealed)
    (hfirstMiddle : Apart (Scan.ofText first).tags (Scan.ofText middle).tags)
    (hfirstSecond : Apart (Scan.ofText first).tags (Scan.ofText second).tags)
    (hmiddleSecond : Apart (Scan.ofText middle).tags (Scan.ofText second).tags)
    (context : Value H) (loop : Option Iteration) :
    templateText env budget (first ++ middle ++ second) context loop = do
      let a ← templateText env budget first context loop
      let b ← templateText env budget middle context loop
      let c ← templateText env budget second context loop
      return a ++ b ++ c := by
  have hrest : Apart (Scan.ofText first).tags (Scan.ofText (middle ++ second)).tags := by
    rw [Scan.ofText_append hmiddle, Scan.tags_append]
    intro opener hopener closer hcloser
    rcases List.mem_append.mp hcloser with hcloser | hcloser
    · exact hfirstMiddle opener hopener closer hcloser
    · exact hfirstSecond opener hopener closer hcloser
  rw [List.append_assoc, templateText_append env budget hfirst hrest,
    templateText_append env budget hmiddle hmiddleSecond]
  simp only [bind_assoc, pure_bind, String.append_assoc]

/-! ## A reference -/

theorem directiveText_of_inclusion (nested : Nested H W) {env : Environment H W}
    {opening : Opening} {name : String} {source : String} {state : RenderState H W}
    (hsegment : Backtick.mark ∉ opening.body)
    (hread : Directive.read env.settings.delimiter.toList opening.body opening.selfClosing =
      ⟨false, name, [], false⟩)
    (hcaptures : state.captures.find? name = none)
    (hinclude : env.includes.find? name = some (.text source))
    (block : Option Block) (context : Value H) (loop : Option Iteration) :
    directiveText nested env opening block context loop state =
      nested (parseTemplate source.toList) context loop state := by
  have htarget : target nested env ⟨false, name, [], false⟩ context loop state =
      (Target.inclusion <$> nested (parseTemplate source.toList) context loop) state := by
    rw [target_of_inclusion nested hcaptures hinclude]
    rfl
  rw [directiveText, directiveOf_of_not_mem _ _ hsegment, pure_bind, hread, bind_apply, htarget,
    map_eq_pure_bind, bind_apply]
  cases nested (parseTemplate source.toList) context loop state with
  | mk outcome after =>
      cases outcome with
      | error error => rfl
      | ok output =>
          have hdisplayed : displayed (.string output : Value H) = output := by
            simp [displayed, Value.isUndefined, Value.display]
          exact congrArg (fun text => (Except.ok text, after)) hdisplayed

theorem templateText_reference (env : Environment H W) (budget : Nat) {name source : String}
    (href : IsReference env.settings.delimiter.toList name) {state : RenderState H W}
    (hcaptures : state.captures.find? name = none)
    (hinclude : env.includes.find? name = some (.text source)) (context : Value H)
    (loop : Option Iteration) :
    templateText env (budget + 1) (referenceTag name).text context loop state =
      templateText env budget source.toList context loop state := by
  rw [templateText, href.parseTemplate, nodesText, concatMap_singleton]
  exact directiveText_of_inclusion _ href.noSegment href.read_eq hcaptures hinclude none context
    loop

theorem templateText_of_le (env : Environment H W) {budget larger : Nat} (hle : budget ≤ larger)
    {t : Text} {context : Value H} {loop : Option Iteration} {state after : RenderState H W}
    {output : String} (h : templateText env budget t context loop state = (.ok output, after)) :
    templateText env larger t context loop state = (.ok output, after) := by
  have hagree := nodesText_agreesUnless_of_le env env.settings.maxDepth
    env.settings.maxTemplateSize hle (parseTemplate t) context loop state
  rcases hagree with ⟨error, stopped, -, hfails⟩ | hsame
  · rw [templateText, hfails] at h
    cases h
  · exact hsame.trans h

theorem templateText_paste (env : Environment H W) (budget : Nat) {name source : String}
    {first second : Text} (href : IsReference env.settings.delimiter.toList name)
    (hparts : IsSurrounded name first source.toList second)
    (hinclude : env.includes.find? name = some (.text source)) {context : Value H}
    {loop : Option Iteration} {state after : RenderState H W} {output : String}
    (hreached : ∀ a middle, templateText env budget first context loop state = (.ok a, middle) →
      middle.captures.find? name = none)
    (hrender : templateText env budget (first ++ (referenceTag name).text ++ second) context loop
      state = (.ok output, after)) :
    templateText env budget (first ++ source.toList ++ second) context loop state =
      (.ok output, after) := by
  have hfirstReference : Apart (Scan.ofText first).tags
      (Scan.ofText (referenceTag name).text).tags := by
    rw [href.standalone.tags_eq]
    exact apart_of_isExpression href.isExpression _
  have hreferenceSecond : Apart (Scan.ofText (referenceTag name).text).tags
      (Scan.ofText second).tags := by
    rw [href.standalone.tags_eq]
    intro opener hopener closer hcloser token hopens
    rw [List.mem_singleton.mp hopener, Tag.opens_iff, href.openingToken?] at hopens
    rw [← Option.some.inj hopens]
    exact hparts.name_not_closed closer hcloser
  rw [templateText_append_append env budget hparts.first_sealed href.standalone.isSealed
    hfirstReference
    hparts.first_apart_second hreferenceSecond, bind_apply] at hrender
  rw [templateText_append_append env budget hparts.first_sealed hparts.source_sealed
    hparts.first_apart_source hparts.first_apart_second hparts.source_apart_second, bind_apply]
  cases budget with
  | zero => cases hrender
  | succ budget =>
      cases hfirst : templateText env (budget + 1) first context loop state with
      | mk outcome middle =>
          rw [hfirst] at hrender
          cases outcome with
          | error error => cases hrender
          | ok a =>
              -- the tag renders to its text one level deeper, and so to the text at this level
              simp only [bind_apply,
                templateText_reference env budget href (hreached a middle hfirst) hinclude]
                at hrender ⊢
              cases hsource : templateText env budget source.toList context loop middle with
              | mk outcome last =>
                  rw [hsource] at hrender
                  cases outcome with
                  | error error => cases hrender
                  | ok b =>
                      rw [templateText_of_le env (Nat.le_succ budget) hsource]
                      exact hrender

end Render

namespace Engine

variable {H W : Type} [HostObject H]

/--
Including is pasting: a document that renders with a reference to an include
renders with the text of the include in its place to the same output, with the
same captured values.  So does a part of a document, in any context, loop and
depth.
-/
theorem render_paste {name first source second : String}
    (hparts : IsSurrounded name first.toList source.toList second.toList) :
    (∀ (engine : Engine H W) (world : W) (context : Value H) (output : String)
        (after : Engine H W × W),
      engine.settings.compact = false →
      engine.includes.find? name = some (.text source) →
      IsReference engine.settings.delimiter.toList name →
      (first ++ source ++ second).utf8ByteSize ≤ engine.settings.maxTemplateSize →
      (∀ a middle, engine.render world first context = (.ok a, middle) →
        middle.1.captures.find? name = none) →
      engine.render world (first ++ String.ofList (referenceTag name).text ++ second) context =
        (.ok output, after) →
      engine.render world (first ++ source ++ second) context = (.ok output, after)) ∧
    (∀ (env : Environment H W) (budget : Nat) (context : Value H) (loop : Option Iteration)
        (state after : RenderState H W) (output : String),
      env.includes.find? name = some (.text source) →
      IsReference env.settings.delimiter.toList name →
      (∀ a middle, Render.templateText env budget first.toList context loop state =
        (.ok a, middle) → middle.captures.find? name = none) →
      Render.templateText env budget
          (first.toList ++ (referenceTag name).text ++ second.toList) context loop state =
        (.ok output, after) →
      Render.templateText env budget (first.toList ++ source.toList ++ second.toList) context loop
          state =
        (.ok output, after)) := by
  constructor
  · intro engine world context output after hcompact hinclude href hsize hreached hrender
    have hfits : (first ++ String.ofList (referenceTag name).text ++ second).utf8ByteSize ≤
        engine.settings.maxTemplateSize := by
      by_contra hlarge
      rw [render, if_pos (Nat.not_le.mp hlarge)] at hrender
      cases hrender
    have hfirst : first.utf8ByteSize ≤ engine.settings.maxTemplateSize := by
      rw [String.utf8ByteSize_append, String.utf8ByteSize_append] at hsize
      omega
    rw [render_eq_run engine hcompact hfits, run, String.toList_append, String.toList_append,
      String.toList_ofList] at hrender
    rw [render_eq_run engine hcompact hsize, run, String.toList_append, String.toList_append]
    have htag : ∀ a middle, Render.templateText engine.toEnvironment engine.settings.maxDepth
        first.toList context none ⟨engine.captures, world⟩ = (.ok a, middle) →
          middle.captures.find? name = none := by
      intro a middle hrun
      refine hreached a (⟨engine.toEnvironment, middle.captures⟩, middle.world) ?_
      rw [render_eq_run engine hcompact hfirst, run, hrun]
    cases hrun : Render.templateText engine.toEnvironment engine.settings.maxDepth
        (first.toList ++ (referenceTag name).text ++ second.toList) context none
        ⟨engine.captures, world⟩ with
    | mk outcome state =>
        rw [hrun] at hrender
        cases hrender
        rw [Render.templateText_paste _ _ href hparts hinclude htag hrun]
  · intro env budget context loop state after output hinclude href hreached hrender
    exact Render.templateText_paste env budget href hparts hinclude hreached hrender

theorem render_paste_initial :
    let first := "{{name|set>x}}{{rows}}-{{/rows}}"
    let source := "<{{x}}{{if x|set>y}}{{x}}{{/if}}>"
    let second := "{{y}}{{.}}{{/y}}{{else}}"
    let context := Value.map [("name", .string "n"), ("rows", .array [.null, .null])]
    let engine := (initial : Engine Empty Unit).registerInclude "box" (.text source)
    let result := engine.render () (first ++ source ++ second) context
    result.1.toOption = some "--<nn>n{{else}}" ∧ result.2.1.captures.map Prod.fst = ["x", "y"] := by
  intro first source second context engine result
  let document := first ++ String.ofList (referenceTag "box").text ++ second
  have hdocument : (engine.render () document context).1.toOption = some "--<nn>n{{else}}" ∧
      (engine.render () document context).2.1.captures.map Prod.fst = ["x", "y"] := by
    decide +kernel
  have hfirst : ((engine.render () first context).2.1.captures.find? "box").isNone = true := by
    decide +kernel
  have hreached : ∀ a middle, engine.render () first context = (.ok a, middle) →
      middle.1.captures.find? "box" = none := by
    intro a middle hrun
    rw [hrun] at hfirst
    exact Option.isNone_iff_eq_none.mp hfirst
  cases hrender : engine.render () document context with
  | mk outcome after =>
      rw [hrender] at hdocument
      obtain rfl : outcome = .ok _ := eq_ok_of_toOption hdocument.1
      have hpaste := (@render_paste Empty Unit _ "box" first source second (by decide +kernel)).1
        engine () context _ after rfl rfl (by decide +kernel) (by decide +kernel) hreached hrender
      simp only [result, hpaste]
      exact ⟨rfl, hdocument.2⟩

end Engine

end BraceTemplate
