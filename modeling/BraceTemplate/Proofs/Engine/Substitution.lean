import BraceTemplate.Proofs.Engine.Block

/-!
# What is substituted for a directive

A directive that is no condition is substituted by what comes out of its chain,
but not by this alone.  An array that its chain makes something else drops the
block, and where an include or nothing goes into the chain, an array that comes
out is shown with commas.
-/

namespace BraceTemplate

namespace Render

variable {H W : Type} [HostObject H] {nested : Nested H W} {env : Environment H W}
  {opening : Opening} {directive : Directive} {context : Value H} {loop : Option Iteration}

omit [HostObject H] in
theorem directiveOf_eq_ok (nested : Nested H W) (hmark : Backtick.mark ∉ opening.body)
    (hread : Directive.read env.settings.delimiter.toList opening.body opening.selfClosing =
      directive) (context : Value H) (loop : Option Iteration) (state : RenderState H W) :
    directiveOf nested env opening context loop state = (.ok directive, state) := by
  rw [directiveOf_of_not_mem nested env hmark, hread]
  rfl

/-! ## With a block -/

/--
A block on a value is rendered for what comes out of the chain: once for every
item of an array, in the loop over the items, and once in the context of
anything else that is present.  But if an array went in and something else comes
out, this is shown instead and the block is dropped.
-/
theorem nodeText_block {value : Value H} {state before : RenderState H W}
    (hdirective : directiveOf nested env opening context loop state = (.ok directive, before))
    (hplain : directive.conditional = false)
    (hvalue : lookup? env before.captures directive context loop = some value)
    (hpresent : value.isUndefined = false) (token : Text) (children : List Node)
    (separatorIndex : Option Nat) :
    nodeText nested env context loop (.block opening token children separatorIndex) state =
      (do
        match ← pipe env directive.chain value with
        | .array items =>
            String.join <$> items.zipIdx.mapM fun (item, index) =>
              nested children item (some (.start index items.length))
        | result =>
            if value.asArray?.isSome then pure (displayed result)
            else if result.isTruthy then nested children result loop
            else pure placeholder : Rendering H W String) before := by
  rw [nodeText, directiveText_of_lookup? nested hdirective hplain hvalue hpresent]
  refine congrFun (congrArg (pipe env _ value >>= ·) (funext fun result => ?_)) before
  cases result with
  | array items => exact sequenceText_block nested ⟨children, separatorIndex⟩ items
  | _ => rfl

theorem nodeText_block_split :
    let env := (Engine.initial : Engine Empty Unit).toEnvironment
    let opening : Opening := ⟨⟨"word|split>-".toList⟩, "word|split>-".toList, false⟩
    let children := parseTemplate "{{##}}{{.}},".toList
    (nodeText (nodesText env 1) env (.map [("word", .string "a-b")]) none
      (.block opening "word".toList children none) ⟨[], ()⟩).1.toOption = some "1a,2b," := by
  intro env opening children
  have hread : Directive.read env.settings.delimiter.toList opening.body opening.selfClosing =
      ⟨false, "word", [⟨"split", ["-"]⟩], false⟩ := by
    decide +kernel
  have hdirective := directiveOf_eq_ok (nodesText env 1) (by decide) hread
    (.map [("word", .string "a-b")]) none ⟨[], ()⟩
  have hvalue : lookup? env [] ⟨false, "word", [⟨"split", ["-"]⟩], false⟩
      (.map [("word", .string "a-b")]) none = some (.string "a-b") := by
    rfl
  rw [nodeText_block hdirective rfl hvalue rfl]
  decide +kernel

theorem render_block_joined :
    let engine : Engine Empty Unit := .initial
    let items := Value.array [.string "a", .string "b"]
    let template := "{{items|join>-}}[{{.}}]{{/items}}"
    (pipe engine.toEnvironment [⟨"join", ["-"]⟩] items ⟨[], ()⟩).1.toOption =
        some (.string "a-b") ∧
      (engine.render () "[{{.}}]" (.string "a-b")).1.toOption = some "[a-b]" ∧
      (engine.render () template (.map [("items", items)])).1.toOption = some "a-b" := by
  intro engine items template
  refine ⟨?_, by decide +kernel, by decide +kernel⟩
  with_unfolding_all rfl

/-! ## Without a block -/

def standsForValue (env : Environment H W) (captures : Dictionary (Value H))
    (directive : Directive) (context : Value H) (loop : Option Iteration) : Bool :=
  (lookup? env captures directive context loop).any (!·.isUndefined)

omit [HostObject H] in
theorem ofValue_eq_missing {value? : Option (Value H)}
    (h : value?.any (!·.isUndefined) = false) : value?.elim .missing Target.ofValue = .missing := by
  cases value? with
  | none => rfl
  | some value =>
      cases value with
      | undefined => rfl
      | _ => simp [Value.isUndefined] at h

theorem inclusion_or_missing {found : Target H} {state after : RenderState H W}
    (hstands : standsForValue env state.captures directive context loop = false)
    (hfound : target nested env directive context loop state = (.ok found, after)) :
    (∃ text, found = .inclusion text) ∨ found = .missing := by
  cases hinclude : env.includes.find? directive.path with
  | none =>
      rw [target_of_no_include nested hinclude] at hfound
      cases hfound
      exact .inr (ofValue_eq_missing hstands)
  | some inclusion =>
      cases hcapture : state.captures.find? directive.path with
      | some captured =>
          have hvalue : lookup? env state.captures directive context loop = some captured := by
            rw [lookup?, hcapture]
          rw [target_of_lookup? nested hvalue] at hfound
          rw [standsForValue, hvalue] at hstands
          cases hfound
          exact .inr (ofValue_eq_missing hstands)
      | none =>
          have hsource : (includeSource inclusion : Rendering H W String) state =
              (.ok (inclusion.source state.world).1,
                { state with world := (inclusion.source state.world).2 }) := rfl
          rw [target_of_inclusion nested hcapture hinclude] at hfound
          simp only [map_eq_pure_bind, bind_apply, hsource] at hfound
          split at hfound
          · cases hfound
            exact .inl ⟨_, rfl⟩
          · cases hfound

theorem displayed_array (items : List (Value H)) :
    displayed (.array items) = ",".intercalate (items.map Value.display) := by
  simp [displayed, Value.isUndefined, Value.display]

/--
An array that comes out of the chain of a directive without a block is shown
item by item, with nothing between them, if the path of the directive stands for
a value; behind an include or nothing it is shown with commas.
-/
theorem nodeText_directive {found : Target H} {items : List (Value H)}
    {state before middle after : RenderState H W}
    (hdirective : directiveOf nested env opening context loop state = (.ok directive, before))
    (hplain : directive.conditional = false)
    (hfound : target nested env directive context loop before = (.ok found, middle))
    (hchain : pipe env directive.chain found.toValue middle = (.ok (.array items), after)) :
    nodeText nested env context loop (.directive opening) state =
      (.ok
        (if standsForValue env before.captures directive context loop then
          String.join (items.map displayed)
        else ",".intercalate (items.map Value.display)),
        after) := by
  rw [nodeText]
  cases hstands : standsForValue env before.captures directive context loop with
  | true =>
      obtain ⟨value, hvalue, hpresent⟩ := (Option.any_eq_true _ _).mp hstands
      rw [target_of_lookup? nested hvalue] at hfound
      cases hfound
      rw [toValue_ofValue] at hchain
      rw [directiveText_of_lookup? nested hdirective hplain hvalue (by simpa using hpresent),
        bind_apply, hchain]
      rfl
  | false =>
      rw [directiveText, bind_apply, hdirective]
      simp only
      rw [bind_apply, hfound]
      simp only [hplain, Bool.false_eq_true, if_false]
      rw [bind_apply, hchain, ← displayed_array]
      rcases inclusion_or_missing hstands hfound with ⟨text, rfl⟩ | rfl
      · rfl
      · rfl

theorem nodeText_directive_missing :
    let env := (Engine.initial : Engine Empty Unit).toEnvironment
    let opening : Opening :=
      ⟨⟨"nothing|blank>a b|split> ".toList⟩, "nothing|blank>a b|split> ".toList, false⟩
    (nodeText (nodesText env 1) env .null none (.directive opening) ⟨[], ()⟩).1.toOption =
      some "a,b" := by
  intro env opening
  have hread : Directive.read env.settings.delimiter.toList opening.body opening.selfClosing =
      ⟨false, "nothing", [⟨"blank", ["a b"]⟩, ⟨"split", [" "]⟩], false⟩ := by
    decide +kernel
  have hdirective := directiveOf_eq_ok (nodesText env 1) (by decide) hread .null none ⟨[], ()⟩
  have hfound : target (nodesText env 1) env
      ⟨false, "nothing", [⟨"blank", ["a b"]⟩, ⟨"split", [" "]⟩], false⟩ .null none ⟨[], ()⟩ =
        (.ok .missing, ⟨[], ()⟩) := by
    rfl
  have hchain : pipe env [⟨"blank", ["a b"]⟩, ⟨"split", [" "]⟩] (.undefined : Value Empty)
      ⟨[], ()⟩ = (.ok (.array [.string "a", .string "b"]), ⟨[], ()⟩) := by
    with_unfolding_all rfl
  rw [nodeText_directive hdirective rfl hfound hchain]
  decide +kernel

theorem render_include_split :
    let engine := (Engine.initial : Engine Empty Unit).registerInclude "text" (.text "a b")
    let words : List (Value Empty) := [.string "a", .string "b"]
    (pipe engine.toEnvironment [⟨"split", [" "]⟩] (.string "a b") ⟨[], ()⟩).1.toOption =
        some (.array words) ∧
      String.join (words.map displayed) = "ab" ∧
      (engine.render () "{{value|split> }}" (.map [("value", .string "a b")])).1.toOption =
        some "ab" ∧
      (engine.render () "{{text|split> }}" .null).1.toOption = some "a,b" := by
  intro engine words
  refine ⟨?_, by decide +kernel, by decide +kernel, by decide +kernel⟩
  with_unfolding_all rfl

end Render

end BraceTemplate
