import BraceTemplate.Proofs.Engine.Capturing
import BraceTemplate.Proofs.Path

/-!
# Joining by a loop

A loop over an array that shows a separator before all elements but the first,
and then the element itself, renders to the text that the filter `join` makes of
the array.
-/

namespace BraceTemplate

variable {H W : Type}

/-! ## Separated texts -/

theorem join_zipIdx_eq_intercalate (separator : String) (texts : List String) :
    String.join (texts.zipIdx.map fun entry =>
      (if entry.2 = 0 then "" else separator) ++ entry.1) = separator.intercalate texts := by
  -- behind the first text, every text has the separator before it
  have general : ∀ (rest : List String) (text : String) (start : Nat),
      text ++ String.join ((rest.zipIdx (start + 1)).map fun entry =>
        (if entry.2 = 0 then "" else separator) ++ entry.1) =
          separator.intercalate (text :: rest) := by
    intro rest
    induction rest with
    | nil => simp
    | cons next rest ih =>
        intro text start
        rw [String.intercalate_cons_cons, ← ih next (start + 1)]
        simp [String.append_assoc]
  cases texts with
  | nil => simp
  | cons text rest => simpa using general rest text 0

namespace Render

variable [HostObject H]

/-! ## The body of the loop -/

def separatorDocument (separator : Text) : Text :=
  conditionDocument "#|first".toList [] separator

def itemTag : Tag := ⟨['.']⟩

def joinDocument (separator : Text) : Text :=
  blockDocument ['S'] (separatorDocument separator ++ itemTag.text)

section Literal

variable {t : Text} (noOpening : ¬ Tag.opening <:+: t) (noBrace : t.getLast? ≠ some '{')

include noOpening noBrace

theorem parseTemplate_literal : parseTemplate t = Node.ofLiteral t := by
  rw [parseTemplate_eq_tree, Scan.ofText_literal noOpening noBrace, Scan.tree, treeOfTags_nil]

theorem isBranch_literal : IsBranch t := by
  refine ⟨⟨?_, ?_⟩, ?_⟩
  · rw [Scan.ofText_literal noOpening noBrace]
    exact ⟨noOpening, noBrace⟩
  · rw [Scan.ofText_literal noOpening noBrace]
    exact .nil
  · rw [parseTemplate_literal noOpening noBrace]
    unfold Node.ofLiteral
    split <;> simp [Node.isSeparator]

theorem templateText_literal (env : Environment H W) (budget : Nat) (context : Value H)
    (loop : Option Iteration) :
    templateText env budget t context loop = nest env budget fun _ => pure (String.ofList t) := by
  rw [templateText, parseTemplate_literal noOpening noBrace, nodesText_ofLiteral]

theorem ofText_separatorDocument :
    Scan.ofText (separatorDocument t) =
      ⟨[([], conditionTag "#|first".toList), ([], separatorTag), (t, Tag.closerOf conditionToken)],
        []⟩ := by
  have hcondition : (conditionTag "#|first".toList).Standalone := by decide +kernel
  have hseparator : separatorTag.Standalone := by decide +kernel
  have hcloser : (Tag.closerOf conditionToken).Standalone := by decide +kernel
  have hend := Scan.ofText_literal_append noOpening noBrace (Tag.closerOf conditionToken).text
  rw [hcloser, Scan.prepend_cons, List.append_nil] at hend
  simp only [separatorDocument, conditionDocument, List.append_assoc, List.nil_append]
  rw [hcondition.ofText_append, hseparator.ofText_append, hend]

theorem isSealed_separatorDocument : (Scan.ofText (separatorDocument t)).Sealed :=
  Scan.Sealed.of_rest_eq_nil (by rw [ofText_separatorDocument noOpening noBrace])

theorem ofText_joinBody :
    Scan.ofText (separatorDocument t ++ itemTag.text) =
      ⟨[([], conditionTag "#|first".toList), ([], separatorTag),
        (t, Tag.closerOf conditionToken), ([], itemTag)], []⟩ := by
  have hscan := ofText_separatorDocument noOpening noBrace
  have hitem : itemTag.Standalone := by decide +kernel
  have hsealed := isSealed_separatorDocument noOpening noBrace
  rw [Scan.ofText_append hsealed, hscan, hitem, Scan.append_def, Scan.prepend_nil]
  rfl

theorem isBody_joinBody : IsBody (blockToken ['S']) (separatorDocument t ++ itemTag.text) := by
  have hscan := ofText_joinBody noOpening noBrace
  have htags : (Scan.ofText (separatorDocument t ++ itemTag.text)).tags =
      [conditionTag "#|first".toList, separatorTag, Tag.closerOf conditionToken, itemTag] := by
    rw [hscan]
    rfl
  constructor
  · exact Scan.Sealed.of_rest_eq_nil (by rw [hscan])
  · rw [htags]
    exact .of_neither (by decide) (by decide)

end Literal

section Loop

variable {env : Environment H W} {state : RenderState H W}
  (hdelimiter : env.settings.delimiter = ">")
  (hunbound : ∀ name ∈ ["S", "#", "."],
    state.captures.find? name = none ∧ env.includes.find? name = none)

include hdelimiter hunbound

theorem templateText_separatorDocument (hfirst : env.filters.find? "first" = some Filter.first)
    (budget : Nat) {separator : Text} (noOpening : ¬ Tag.opening <:+: separator)
    (noBrace : separator.getLast? ≠ some '{') (item : Value H) (i : Iteration) :
    templateText env (budget + 2) (separatorDocument separator) item (some i) state =
      (.ok (if i.isFirst then "" else String.ofList separator), state) := by
  have hread : Directive.read env.settings.delimiter.toList (conditionTag "#|first".toList).inner
      false = ⟨true, "#", [⟨"first", []⟩], false⟩ := by
    rw [hdelimiter]
    decide +kernel
  have hvalue : lookup? env state.captures ⟨true, "#", [⟨"first", []⟩], false⟩ item (some i) =
      some (.iteration (i.withSign "#")) := by
    obtain ⟨hcaptures, hincludes⟩ := hunbound "#" (by simp)
    rw [lookup?_of_unbound hcaptures hincludes]
    rfl
  have hfilter : pipe env [⟨"first", []⟩] (.iteration (i.withSign "#")) state =
      (.ok (.bool i.isFirst), state) := by
    simp only [pipe, Chain.run, List.foldlM_cons, List.foldlM_nil, bind_pure, Chain.runStep,
      Chain.applyStep, hfirst]
    rfl
  have hbranch : templateText env (budget + 1) (if i.isFirst then [] else separator) item (some i)
      state = (.ok (if i.isFirst then "" else String.ofList separator), state) := by
    cases i.isFirst with
    | true => exact congrFun (templateText_literal (t := []) (by decide) (by decide) _ _ _ _) state
    | false => exact congrFun (templateText_literal noOpening noBrace _ _ _ _) state
  have hempty : IsBranch [] := isBranch_literal (by decide) (by decide)
  have hapart : Apart (Scan.ofText []).tags (Scan.ofText separator).tags := by
    simp [Apart, Scan.tags]
  rw [separatorDocument, templateText_conditionDocument env _ (by decide +kernel) hempty
    (isBranch_literal noOpening noBrace) hapart, conditionText, hread]
  simp only [nest]
  rw [bind_apply, target_of_lookup? _ hvalue]
  simp only [toValue_ofValue]
  rw [bind_apply, hfilter]
  have hholds : (!(Value.bool i.isFirst : Value H).isFalse) = i.isFirst := by
    cases i.isFirst <;> rfl
  simp only [List.cons_ne_nil, if_false, hholds]
  exact hbranch

theorem templateText_itemTag (budget : Nat) {item : Value H} (hpresent : item.isUndefined = false)
    (hplain : item.asArray? = none) (loop : Option Iteration) :
    templateText env (budget + 1) itemTag.text item loop state = (.ok item.display, state) := by
  have hread : Directive.read env.settings.delimiter.toList ['.'] false =
      ⟨false, ".", [], false⟩ := by
    rw [hdelimiter]
    decide +kernel
  have hvalue : lookup? env state.captures ⟨false, ".", [], false⟩ item loop = some item := by
    obtain ⟨hcaptures, hincludes⟩ := hunbound "." (by simp)
    rw [lookup?_of_unbound hcaptures hincludes]
    rfl
  have hshown : shown item = item.display := by
    cases item <;> simp_all [shown, displayed, Value.isUndefined, Value.asArray?]
  have hexpression : IsValueExpression ['.'] := by decide +kernel
  have htag := templateText_tag_of_lookup? env (budget + 1) hexpression state
    (by rw [hread]; exact hvalue) hpresent
  rw [hread] at htag
  rw [itemTag, htag, ← hshown]
  rfl

section Body

variable (hfirst : env.filters.find? "first" = some Filter.first) (budget : Nat)
  {separator : Text} (noOpening : ¬ Tag.opening <:+: separator)
  (noBrace : separator.getLast? ≠ some '{')

include hfirst noOpening noBrace

theorem templateText_joinBody {item : Value H} (hpresent : item.isUndefined = false)
    (hplain : item.asArray? = none) (i : Iteration) :
    templateText env (budget + 2) (separatorDocument separator ++ itemTag.text) item (some i)
        state =
      (.ok ((if i.isFirst then "" else String.ofList separator) ++ item.display), state) := by
  have hitem : itemTag.Standalone := by decide +kernel
  have hsealed := isSealed_separatorDocument noOpening noBrace
  have hapart : Apart (Scan.ofText (separatorDocument separator)).tags
      (Scan.ofText itemTag.text).tags := by
    rw [hitem.tags_eq]
    exact apart_of_isExpression (by decide : itemTag.kind = .expression ['.'] false) _
  rw [templateText_append env _ hsealed hapart, bind_apply,
    templateText_separatorDocument hdelimiter hunbound hfirst budget noOpening noBrace]
  simp only [bind_apply]
  rw [templateText_itemTag hdelimiter hunbound (budget + 1) hpresent hplain]
  rfl

theorem templateText_joinDocument {context : Value H} {items : List (Value H)}
    (hitems : context.child? "S" = some (.array items))
    (hplain : ∀ item ∈ items, item.isUndefined = false ∧ item.asArray? = none)
    (loop : Option Iteration) :
    templateText env (budget + 3) (joinDocument separator) context loop state =
      (.ok ((String.ofList separator).intercalate (items.map Value.display)), state) := by
  have hread : Directive.read env.settings.delimiter.toList ['S'] false =
      ⟨false, "S", [], false⟩ := by
    rw [hdelimiter]
    decide +kernel
  have hvalue : lookup? env state.captures ⟨false, "S", [], false⟩ context loop =
      some (.array items) := by
    obtain ⟨hcaptures, hincludes⟩ := hunbound "S" (by simp)
    have hsegments : Path.segments "S" = ["S"] := Path.segments_of_not_mem (by decide)
    rw [lookup?_of_unbound hcaptures hincludes]
    change Path.resolve? state.captures env.globals "S" context = some (.array items)
    simp [Path.resolve?, hsegments, Path.root?, hitems, Path.descend?]
  have htexts : ∀ entry ∈ items.zipIdx, templateText env (budget + 2)
      (separatorDocument separator ++ itemTag.text) entry.1 (some (.start entry.2 items.length))
        state =
      (.ok ((if entry.2 = 0 then "" else String.ofList separator) ++ entry.1.display), state) := by
    intro entry hmem
    obtain ⟨hpresent, harray⟩ := hplain entry.1 (List.fst_mem_of_mem_zipIdx hmem)
    have hbody := templateText_joinBody hdelimiter hunbound hfirst budget noOpening noBrace
      hpresent harray (.start entry.2 items.length)
    simpa [Iteration.start, Iteration.isFirst] using hbody
  have hjoin := join_zipIdx_eq_intercalate (String.ofList separator) (items.map Value.display)
  rw [List.zipIdx_map, List.map_map] at hjoin
  rw [joinDocument, templateText_blockDocument env _ (by decide +kernel)
    (isBody_joinBody noOpening noBrace) state (by rw [hread]; exact hvalue) rfl, hread,
    blockText_of_items env rfl htexts, ← hjoin]
  rfl

end Body

end Loop

end Render

namespace Engine

variable [HostObject H]

/--
The loop over an array in the context that shows a separator unless it is at the
first element, and then the element, comes to what the filter `join` does.
-/
theorem render_joinDocument {separator : Text} (noOpening : ¬ Tag.opening <:+: separator)
    (noBrace : separator.getLast? ≠ some '{') (engine : Engine H W) (world : W)
    {context : Value H} {items : List (Value H)}
    (hdelimiter : engine.settings.delimiter = ">") (hcompact : engine.settings.compact = false)
    (hdepth : 3 ≤ engine.settings.maxDepth)
    (hsize : (String.ofList (Render.joinDocument separator)).utf8ByteSize ≤
      engine.settings.maxTemplateSize)
    (hfirst : engine.filters.find? "first" = some Filter.first)
    (hunbound : ∀ name ∈ ["S", "#", "."],
      engine.captures.find? name = none ∧ engine.includes.find? name = none)
    (hitems : context.child? "S" = some (.array items))
    (hplain : ∀ item ∈ items, item.isUndefined = false ∧ item.asArray? = none) :
    ∃ output, Filter.join (.array items) [String.ofList separator] = .ok (.string output) ∧
      engine.render world (String.ofList (Render.joinDocument separator)) context =
        (.ok output, engine, world) := by
  refine ⟨(String.ofList separator).intercalate (items.map Value.display), rfl, ?_⟩
  obtain ⟨budget, hbudget⟩ := Nat.exists_eq_add_of_le' hdepth
  have hdocument : Render.templateText engine.toEnvironment (budget + 3)
      (Render.joinDocument separator) context none ⟨engine.captures, world⟩ = _ :=
    Render.templateText_joinDocument hdelimiter hunbound hfirst budget noOpening noBrace hitems
      hplain none
  rw [render_eq_run engine hcompact hsize, String.toList_ofList, hbudget, run, hdocument]

theorem render_joinDocument_initial :
    let engine : Engine Empty Unit := initial
    let items : List (Value Empty) := [.bool true, .string "{{.}}", .string "", .null]
    let context := Value.map [("S", .array items)]
    let template := "{{S}}{{if #|first}}{{else}} {|} {{/if}}{{.}}{{/S}}"
    (engine.render () template context).1.toOption =
        some "true {|} {{.}} {|}  {|} null" ∧
      ∃ output, Filter.join (.array items) [" {|} "] = .ok (.string output) ∧
        engine.render () template context = (.ok output, engine, ()) := by
  intro engine items context template
  have hrender := @render_joinDocument Empty Unit _ " {|} ".toList (by decide) (by decide) engine
    () context items rfl rfl (by decide) (by decide +kernel) rfl (by decide +kernel) rfl
    (by decide +kernel)
  exact ⟨by decide +kernel, hrender⟩

end Engine

end BraceTemplate
