import BraceTemplate.Proofs.Dictionary
import BraceTemplate.Proofs.Engine.Block
import BraceTemplate.Proofs.Engine.Concatenation
import BraceTemplate.Proofs.Template.Extension

/-!
# Captures that are shown

A tag that captures what an expression comes to, followed by a tag that shows
the captured value, renders as the expression alone.  The value is told apart
anew when it is read back: an array shows its items and an absent value the
placeholder, as both did in their own tag.
-/

namespace BraceTemplate

variable {H W : Type}

namespace Chain

theorem run_append_capture (filters : Dictionary (Filter H)) (policy : FailurePolicy)
    (chain : List Step) (value : Value H) (captures : Dictionary (Value H)) {name : Text}
    (h : IsCaptureName name) :
    run filters policy (chain ++ [.capture name]) value captures =
      match run filters policy chain value captures with
      | (.ok result, after) => (.ok (.string ""), after.insert (String.ofList name) result)
      | (.error error, after) => (.error error, after) := by
  have hcapture : ∀ (result : Value H) (after : Dictionary (Value H)),
      runStep filters policy result (.capture name) after =
        (.ok (.string ""), after.insert (String.ofList name) result) := by
    intro result after
    have hname : (String.ofList name).isEmpty = false := by simpa using h.ne_nil
    simp only [runStep, applyStep, Step.capture, capture, List.headD_cons,
      String.toList_ofList, h.trimmed, hname]
    rfl
  rw [run, List.foldlM_append, Render.bind_apply, ← run]
  cases run filters policy chain value captures with
  | mk outcome after =>
      cases outcome with
      | error error => rfl
      | ok result =>
          simp only [List.foldlM_cons, List.foldlM_nil, bind_pure]
          exact hcapture result after

end Chain

namespace Render

variable [HostObject H]

/-! ## Tags without a block -/

def shown (value : Value H) : String :=
  match value with
  | .array items => String.join (items.map displayed)
  | value => displayed value

theorem templateText_tag (env : Environment H W) (budget : Nat) {expression : Text}
    (h : IsValueExpression expression) (context : Value H) (loop : Option Iteration) :
    templateText env budget (Tag.text ⟨expression⟩) context loop =
      nest env budget fun inner =>
        directiveText (nodesText env inner) env ⟨⟨expression⟩, expression, false⟩ none
          context loop := by
  have hnode : (⟨expression⟩ : Tag).node = .directive ⟨⟨expression⟩, expression, false⟩ := by
    rw [Tag.node, h.isExpression]
  rw [templateText, h.standalone.parseTemplate_eq, hnode, nodesText_eq_nest]
  simp only [concatMap_singleton]
  rfl

theorem templateText_tag_of_lookup? (env : Environment H W) (budget : Nat) {expression : Text}
    (h : IsValueExpression expression) {context value : Value H} {loop : Option Iteration}
    (state : RenderState H W)
    (hvalue : lookup? env state.captures
      (.read env.settings.delimiter.toList expression false) context loop = some value)
    (hpresent : value.isUndefined = false) :
    templateText env budget (Tag.text ⟨expression⟩) context loop state =
      nest env budget (fun _ => shown <$>
        pipe env (Directive.read env.settings.delimiter.toList expression false).chain value)
          state := by
  rw [templateText_tag env budget h]
  cases budget with
  | zero => rfl
  | succ budget =>
      simp only [nest, map_eq_pure_bind]
      rw [directiveText_expression _ h.noSegment h.plain state hvalue hpresent]
      refine congrFun (congrArg (pipe env _ value >>= ·) (funext fun result => ?_)) state
      cases result with
      | array items => rfl
      | _ => simp [valueText, shown]

/-! ## Capturing -/

theorem templateText_tag_of_captured {env : Environment H W}
    (hdelimiter : env.settings.delimiter.toList = ['>']) (budget : Nat) {name : Text}
    (h : IsCaptureName name) {result : Value H} {state : RenderState H W}
    (hcaptured : state.captures.find? (String.ofList name) = some result) (context : Value H)
    (loop : Option Iteration) :
    templateText env budget (Tag.text ⟨name⟩) context loop state =
      nest env budget (fun _ => pure (shown result)) state := by
  rw [templateText_tag env budget h.toIsValueExpression]
  cases budget with
  | zero => rfl
  | succ budget =>
      have hvalue : lookup? env state.captures ⟨false, String.ofList name, [], false⟩ context
          loop = some result := by
        simp only [lookup?, hcaptured]
      simp only [nest]
      rw [directiveText, directiveOf_of_not_mem _ _ h.noSegment, pure_bind, hdelimiter, h.read_eq,
        bind_apply, target_of_lookup? _ hvalue]
      -- with no step to run, an absent value is shown as the placeholder of its tag
      cases result <;> rfl

def captureDocument (expression name : Text) : Text :=
  Tag.text ⟨expression ++ '|' :: captureText name⟩ ++ Tag.text ⟨name⟩

def keep (name : Text) (value : Value H) : Rendering H W Unit := fun state =>
  (.ok (), { state with captures := state.captures.insert (String.ofList name) value })

omit [HostObject H] in
theorem pipe_append_capture (env : Environment H W) (chain : List Step) (value : Value H)
    {name : Text} (h : IsCaptureName name) :
    pipe env (chain ++ [.capture name]) value = do
      let result ← pipe env chain value
      keep name result
      return .string "" := by
  funext state
  rw [bind_apply, pipe, Chain.run_append_capture _ _ _ _ _ h, pipe]
  cases Chain.run env.filters env.settings.onFilterError chain value state.captures with
  | mk outcome after => cases outcome <;> rfl

section Document

variable {env : Environment H W} (hdelimiter : env.settings.delimiter.toList = ['>']) (budget : Nat)
  {expression name : Text} (hexpression : IsValueExpression expression)
  (hname : IsCaptureName name) {context value : Value H} {loop : Option Iteration}
  (state : RenderState H W)
  (hvalue : lookup? env state.captures (.read ['>'] expression false) context loop = some value)
  (hpresent : value.isUndefined = false)

include hdelimiter hexpression hname hvalue hpresent

theorem templateText_captureDocument :
    templateText env budget (captureDocument expression name) context loop state =
      nest env budget (fun _ => do
        let result ← pipe env (Directive.read ['>'] expression false).chain value
        keep name result
        return shown result) state := by
  obtain ⟨hcapture, hread⟩ := hname.append_capture hexpression
  have hapart : Apart (Scan.ofText (Tag.text ⟨expression ++ '|' :: captureText name⟩)).tags
      (Scan.ofText (Tag.text ⟨name⟩)).tags := by
    rw [hname.standalone.tags_eq]
    exact apart_of_isExpression hname.isExpression _
  have hfound : lookup? env state.captures
      (.read env.settings.delimiter.toList (expression ++ '|' :: captureText name) false)
        context loop = some value := by
    rw [hdelimiter, hread]
    exact hvalue
  rw [captureDocument, templateText_append env budget hcapture.standalone.isSealed hapart,
    bind_apply, templateText_tag_of_lookup? env budget hcapture state hfound hpresent,
    hdelimiter, hread]
  cases budget with
  | zero => rfl
  | succ budget =>
      simp only [nest, pipe_append_capture env _ value hname, map_eq_pure_bind]
      simp only [bind_apply]
      cases pipe env (Directive.read ['>'] expression false).chain value state with
      | mk outcome after =>
          cases outcome with
          | error error => rfl
          | ok result =>
              have hkept : (keep name result after).2.captures.find? (String.ofList name) =
                  some result := by
                rw [keep, Dictionary.find?_insert, if_pos rfl]
              -- the first tag shows the empty text, and the second what was kept by it
              have hsecond := templateText_tag_of_captured hdelimiter (budget + 1) hname hkept
                context loop
              rw [keep] at hsecond
              simp only [keep, pure_apply, hsecond, nest]
              simp [shown, displayed, Value.isUndefined, Value.display]

theorem captureDocument_agrees :
    let plain := templateText env budget (Tag.text ⟨expression⟩) context loop state
    let captured := templateText env budget (captureDocument expression name) context loop state
    captured.1 = plain.1 ∧ ∀ output, captured.1 = .ok output →
      String.ofList name ∈ captured.2.captures.names ∧ ∃ result, shown result = output ∧
        captured.2.captures = plain.2.captures.insert (String.ofList name) result := by
  intro plain captured
  have hplain := templateText_tag_of_lookup? env budget hexpression state
      (by rwa [hdelimiter]) hpresent
  have hcaptured := templateText_captureDocument hdelimiter budget hexpression hname state hvalue
    hpresent
  rw [hdelimiter] at hplain
  simp only [plain, captured, hplain, hcaptured]
  cases budget with
  | zero => exact ⟨rfl, fun output houtput => by cases houtput⟩
  | succ budget =>
      simp only [nest, map_eq_pure_bind, bind_apply, keep, pure_apply]
      cases pipe env (Directive.read ['>'] expression false).chain value state with
      | mk outcome after =>
          cases outcome with
          | error error => exact ⟨rfl, fun output houtput => by cases houtput⟩
          | ok result =>
              refine ⟨rfl, fun output houtput => ⟨?_, result, by simpa using houtput, rfl⟩⟩
              exact Dictionary.mem_names_insert after.captures (String.ofList name) result

end Document

theorem size_tag_le_captureDocument (expression name : Text) :
    (String.ofList (Tag.text ⟨expression⟩)).utf8ByteSize ≤
      (String.ofList (captureDocument expression name)).utf8ByteSize := by
  have hcons : '|' :: captureText name = ['|'] ++ captureText name := rfl
  simp only [captureDocument, Tag.text, hcons, String.ofList_append, String.utf8ByteSize_append]
  omega

end Render

namespace Engine

variable [HostObject H]

/--
Where an expression stands for a value, its tag renders as the two tags that
capture what it comes to and show the captured value do.  If they do not fail,
they leave this value captured under the name, besides what the one tag leaves.
-/
theorem render_captureDocument {expression name : Text}
    (hexpression : IsValueExpression expression) (hname : IsCaptureName name) :
    (∀ (env : Environment H W) (budget : Nat) (context value : Value H)
        (loop : Option Iteration) (state : RenderState H W),
      env.settings.delimiter = ">" →
      Render.lookup? env state.captures (.read ['>'] expression false) context loop =
        some value →
      value.isUndefined = false →
      let plain := Render.templateText env budget (Tag.text ⟨expression⟩) context loop state
      let captured := Render.templateText env budget (Render.captureDocument expression name)
        context loop state
      captured.1 = plain.1 ∧ ∀ output, captured.1 = .ok output →
        String.ofList name ∈ captured.2.captures.names ∧
          ∃ result, Render.shown result = output ∧
            captured.2.captures = plain.2.captures.insert (String.ofList name) result) ∧
    (∀ (engine : Engine H W) (world : W) (context value : Value H),
      engine.settings.delimiter = ">" → engine.settings.compact = false →
      (String.ofList (Render.captureDocument expression name)).utf8ByteSize ≤
        engine.settings.maxTemplateSize →
      Render.lookup? engine.toEnvironment engine.captures (.read ['>'] expression false) context
        none = some value →
      value.isUndefined = false →
      let plain := engine.render world (String.ofList (Tag.text ⟨expression⟩)) context
      let captured := engine.render world
        (String.ofList (Render.captureDocument expression name)) context
      captured.1 = plain.1 ∧ ∀ output, captured.1 = .ok output →
        String.ofList name ∈ captured.2.1.captures.names ∧
          ∃ result, Render.shown result = output ∧
            captured.2.1.captures = plain.2.1.captures.insert (String.ofList name) result) := by
  constructor
  · intro env budget context value loop state hdelimiter hvalue hpresent
    exact Render.captureDocument_agrees
      (congrArg String.toList hdelimiter) budget hexpression hname state hvalue hpresent
  · intro engine world context value hdelimiter hcompact hsize hvalue hpresent plain captured
    have hplainSize := (Render.size_tag_le_captureDocument expression name).trans hsize
    simp only [plain, captured, render_eq_run engine hcompact hplainSize,
      render_eq_run engine hcompact hsize, String.toList_ofList]
    exact Render.captureDocument_agrees (congrArg String.toList hdelimiter)
      engine.settings.maxDepth hexpression hname ⟨engine.captures, world⟩ hvalue hpresent

theorem render_captureDocument_counter :
    let engine : Engine Empty Unit := initial
    let context := Value.map [("items", .array [.string "a", .undefined, .null])]
    let captured := engine.render () "{{ items |reverse|set>#}}{{#}}" context
    captured.1.toOption = some "null???a" ∧
      captured.1 = (engine.render () "{{ items |reverse}}" context).1 ∧
      "#" ∈ captured.2.1.captures.names := by
  intro engine context captured
  have hread : Directive.read ['>'] " items |reverse".toList false =
      ⟨false, "items", [⟨"reverse", []⟩], false⟩ := by
    decide +kernel
  obtain ⟨hsame, hkept⟩ := (@render_captureDocument Empty Unit _ " items |reverse".toList
    "#".toList (by decide +kernel) (by decide +kernel)).2 engine () context
    (.array [.string "a", .undefined, .null]) rfl rfl (by decide +kernel)
    (by exact hread ▸ rfl) rfl
  have houtput : captured.1.toOption = some "null???a" := by decide +kernel
  exact ⟨houtput, hsame, (hkept _ (eq_ok_of_toOption houtput)).1⟩

end Engine

end BraceTemplate
