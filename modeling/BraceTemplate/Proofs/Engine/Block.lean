import BraceTemplate.Proofs.Engine.Rendering
import BraceTemplate.Proofs.Template.Concatenation
import BraceTemplate.Proofs.Template.Expression
import Mathlib.Data.List.TakeWhile

/-!
# Rendering blocks

What a document of one block renders to, told by its texts alone: the body of
the block, or the branch that a condition selects, is rendered as if it were a
template of its own, one level deeper.
-/

namespace BraceTemplate

namespace Render

variable {H W : Type}

/-! ## One block -/

theorem directiveOf_of_not_mem (nested : Nested H W) (env : Environment H W)
    {opening : Opening} (h : Backtick.mark ∉ opening.body) (context : Value H)
    (loop : Option Iteration) :
    directiveOf nested env opening context loop =
      pure (.read env.settings.delimiter.toList opening.body opening.selfClosing) := by
  rw [directiveOf, Backtick.expand_of_not_mem h, pure_bind]

variable [HostObject H]

/-- What can stand in a block of a token. -/
structure IsBody (token t : Text) : Prop where
  isSealed : (Scan.ofText t).Sealed
  balanced : Balanced token (Scan.ofText t).tags

instance (token t : Text) : Decidable (IsBody token t) :=
  decidable_of_iff ((Scan.ofText t).Sealed ∧ Balanced token (Scan.ofText t).tags)
    ⟨fun h => ⟨h.1, h.2⟩, fun h => ⟨h.isSealed, h.balanced⟩⟩

theorem templateText_block (env : Environment H W) (budget : Nat) {opener closer : Tag}
    {body token : Text} (hopener : opener.Standalone) (hcloser : closer.Standalone)
    (htoken : opener.openingToken? = some token) (hcloses : closer.closes token = true)
    (hbody : IsBody token body) (context : Value H) (loop : Option Iteration) :
    templateText env budget (opener.text ++ body ++ closer.text) context loop =
      nest env budget fun inner =>
        directiveText (nodesText env inner) env ⟨opener, opener.inner, false⟩
          (some ⟨parseTemplate body,
            Node.separatorIndexOf opener.inner (parseTemplate body)⟩) context loop := by
  have htree := parseTemplate_block hopener hcloser htoken hcloses hbody.isSealed
    hbody.balanced []
  rw [List.append_nil, ← List.append_assoc, parseTemplate_nil] at htree
  rw [templateText, htree, nodesText_eq_nest]
  simp only [concatMap_singleton]
  rfl

/-! ## Conditions -/

def conditionTag (condition : Text) : Tag := ⟨'i' :: 'f' :: ' ' :: condition⟩

def separatorTag : Tag := ⟨['e', 'l', 's', 'e']⟩

def conditionToken : Text := ['i', 'f']

def conditionDocument (condition whenTrue whenFalse : Text) : Text :=
  (conditionTag condition).text ++ (whenTrue ++ separatorTag.text ++ whenFalse) ++
    (Tag.closerOf conditionToken).text

/--
Looks the condition up, decides by what is found whether it holds, and renders
one branch: without a chain the condition holds of what is present, with a chain
of all that the chain does not make `false`.
-/
def conditionText (env : Environment H W) (budget : Nat) (condition whenTrue whenFalse : Text)
    (context : Value H) (loop : Option Iteration) : Rendering H W String :=
  let directive := Directive.read env.settings.delimiter.toList (conditionTag condition).inner false
  nest env budget fun inner => do
    let found ← target (nodesText env inner) env directive context loop
    let value ← pipe env directive.chain found.toValue
    let holds := if directive.chain = [] then value.isTruthy else !value.isFalse
    templateText env inner (if holds then whenTrue else whenFalse) context loop

/-- What can stand behind `if` in a tag of its own, without segments. -/
structure IsCondition (condition : Text) : Prop where
  standalone : (conditionTag condition).Standalone
  expression : (conditionTag condition).kind = .expression (conditionTag condition).inner false
  noSegment : Backtick.mark ∉ condition

instance (condition : Text) : Decidable (IsCondition condition) :=
  decidable_of_iff
    ((conditionTag condition).Standalone ∧
      (conditionTag condition).kind = .expression (conditionTag condition).inner false ∧
      Backtick.mark ∉ condition)
    ⟨fun h => ⟨h.1, h.2.1, h.2.2⟩, fun h => ⟨h.standalone, h.expression, h.noSegment⟩⟩

structure IsBranch (t : Text) : Prop extends IsBody conditionToken t where
  noSeparator : ∀ node ∈ parseTemplate t, node.isSeparator = false

instance (t : Text) : Decidable (IsBranch t) :=
  decidable_of_iff
    (IsBody conditionToken t ∧ ∀ node ∈ parseTemplate t, node.isSeparator = false)
    ⟨fun h => ⟨h.1, h.2⟩, fun h => ⟨h.toIsBody, h.noSeparator⟩⟩

private theorem separatorTag_standalone : separatorTag.Standalone := by decide +kernel

private theorem closerOf_conditionToken_standalone :
    (Tag.closerOf conditionToken).Standalone := by decide +kernel

section Branches

variable {whenTrue whenFalse : Text} (htrue : IsBranch whenTrue) (hfalse : IsBranch whenFalse)

include htrue hfalse

private theorem branches_isBody :
    IsBody conditionToken (whenTrue ++ separatorTag.text ++ whenFalse) := by
  have hscan : Scan.ofText (whenTrue ++ separatorTag.text ++ whenFalse) =
      Scan.ofText whenTrue ++ ⟨([], separatorTag) :: (Scan.ofText whenFalse).tagged,
        (Scan.ofText whenFalse).rest⟩ := by
    rw [List.append_assoc, Scan.ofText_append htrue.isSealed,
      separatorTag_standalone.ofText_append]
  have hseparator : Balanced conditionToken [separatorTag] :=
    .of_neither (by decide) (by decide)
  constructor
  · rw [hscan]
    exact ⟨hfalse.isSealed.noOpening, hfalse.isSealed.noBrace⟩
  · rw [hscan, Scan.tags_append]
    exact htrue.balanced.append (hseparator.append hfalse.balanced)

omit hfalse in
private theorem parseTemplate_branches
    (hapart : Apart (Scan.ofText whenTrue).tags (Scan.ofText whenFalse).tags) :
    parseTemplate (whenTrue ++ separatorTag.text ++ whenFalse) =
      parseTemplate whenTrue ++ .separator separatorTag :: parseTemplate whenFalse := by
  apply parseTemplate_append_tag htrue.isSealed separatorTag_standalone rfl
  intro opener hopener closer hcloser token hopens
  rcases List.mem_cons.mp hcloser with rfl | hcloser
  · rfl
  · exact hapart opener hopener closer hcloser token hopens

omit hfalse in
private theorem separatorIndexOf_branches (condition : Text) :
    Node.separatorIndexOf (conditionTag condition).inner
      (parseTemplate whenTrue ++ .separator separatorTag :: parseTemplate whenFalse) =
        some (parseTemplate whenTrue).length := by
  have hcondition : isConditional (conditionTag condition).inner = true := rfl
  have hnone : (parseTemplate whenTrue).findIdx? Node.isSeparator = none := by
    rw [List.findIdx?_eq_none_iff]
    exact htrue.noSeparator
  rw [Node.separatorIndexOf, hcondition, if_pos rfl, List.findIdx?_append, hnone]
  simp [List.findIdx?_cons, Node.isSeparator]

omit htrue in
private theorem elseBranch_branches :
    elseBranch (parseTemplate whenTrue ++ .separator separatorTag :: parseTemplate whenFalse)
      (some (parseTemplate whenTrue).length) = parseTemplate whenFalse := by
  have hdrop : (parseTemplate whenTrue ++ .separator separatorTag ::
      parseTemplate whenFalse).drop ((parseTemplate whenTrue).length + 1) =
        parseTemplate whenFalse := by
    simp [List.drop_append]
  rw [elseBranch, hdrop, List.takeWhile_eq_self_iff]
  intro node hmem
  simp [hfalse.noSeparator node hmem]

omit htrue in
private theorem branchText_branches (env : Environment H W) (budget : Nat) (context : Value H)
    (loop : Option Iteration) (holds : Bool) :
    branchText (nodesText env budget)
      (some ⟨parseTemplate whenTrue ++ .separator separatorTag :: parseTemplate whenFalse,
        some (parseTemplate whenTrue).length⟩) context loop holds =
      templateText env budget (if holds then whenTrue else whenFalse) context loop := by
  cases holds with
  | false =>
      simp only [branchText, elseBranch_branches hfalse, templateText, Bool.false_eq_true,
        if_false]
  | true => simp [branchText, thenBranch, templateText]

end Branches

omit [HostObject H] in
private theorem conditionHolds_eq_map (env : Environment H W) (chain : List Step)
    (value : Value H) :
    conditionHolds env chain value =
      (fun value => if chain = [] then value.isTruthy else !value.isFalse) <$>
        pipe env chain value := by
  cases chain with
  | nil => rfl
  | cons step chain => simp [conditionHolds]

theorem templateText_conditionDocument (env : Environment H W) (budget : Nat)
    {condition whenTrue whenFalse : Text} (hcondition : IsCondition condition)
    (htrue : IsBranch whenTrue) (hfalse : IsBranch whenFalse)
    (hapart : Apart (Scan.ofText whenTrue).tags (Scan.ofText whenFalse).tags)
    (context : Value H) (loop : Option Iteration) :
    templateText env budget (conditionDocument condition whenTrue whenFalse) context loop =
      conditionText env budget condition whenTrue whenFalse context loop := by
  have htoken : (conditionTag condition).openingToken? = some conditionToken :=
    Tag.openingToken?_eq_some_iff.mpr ⟨hcondition.expression, rfl⟩
  have hmark : Backtick.mark ∉ (conditionTag condition).inner := by
    simpa [conditionTag, Backtick.mark] using hcondition.noSegment
  have hconditional : isConditional (conditionTag condition).inner = true := rfl
  rw [conditionDocument, templateText_block env budget hcondition.standalone
    closerOf_conditionToken_standalone htoken (by decide) (branches_isBody htrue hfalse),
    parseTemplate_branches htrue hapart,
    separatorIndexOf_branches htrue, conditionText]
  congr
  funext inner
  rw [directiveText, directiveOf_of_not_mem _ _ hmark, pure_bind]
  -- the condition comes first, so that the branch runs in the state that it leaves
  simp only [Directive.conditional_read, hconditional, if_true, conditionHolds_eq_map,
    branchText_branches hfalse, bind_map_left]

/-! ## Values -/

def blockDocument (expression body : Text) : Text :=
  (⟨expression⟩ : Tag).text ++ body ++ (Tag.closerOf (blockToken expression)).text

def lookup? (env : Environment H W) (captures : Dictionary (Value H)) (directive : Directive)
    (context : Value H) (loop : Option Iteration) : Option (Value H) :=
  match captures.find? directive.path with
  | some value => some value
  | none =>
      if env.includes.contains directive.path then none
      else
        match directive.pathKind with
        | .counter => loop.map fun i => .iteration (i.withSign directive.path)
        | .self => some context
        | .property => Path.resolve? captures env.globals directive.path context

theorem lookup?_of_unbound {env : Environment H W} {captures : Dictionary (Value H)}
    {directive : Directive} (hcaptures : captures.find? directive.path = none)
    (hincludes : env.includes.find? directive.path = none) (context : Value H)
    (loop : Option Iteration) :
    lookup? env captures directive context loop =
      match directive.pathKind with
      | .counter => loop.map fun i => .iteration (i.withSign directive.path)
      | .self => some context
      | .property => Path.resolve? captures env.globals directive.path context := by
  cases hkind : directive.pathKind <;>
    simp [lookup?, Dictionary.contains, hcaptures, hincludes, hkind]

/--
Runs a value through its chain.  An array that comes out is gone through item by
item, each rendered in the loop over the items; of what else comes out of a
value that is no array, the body is rendered, if it is present, with that as its
context.
-/
def blockText (env : Environment H W) (budget : Nat) (directive : Directive) (value : Value H)
    (body : Text) (loop : Option Iteration) : Rendering H W String :=
  nest env budget fun inner => do
    match ← pipe env directive.chain value with
    | .array items =>
        String.join <$> items.zipIdx.mapM fun (item, index) =>
          templateText env inner body item (some (.start index items.length))
    | result =>
        if value.asArray?.isSome then pure (displayed result)
        else if result.isTruthy then templateText env inner body result loop
        else pure placeholder

theorem blockText_of_items (env : Environment H W) {budget : Nat} {directive : Directive}
    {value : Value H} {body : Text} {state after : RenderState H W} {items : List (Value H)}
    {text : Value H × Nat → String}
    (hpipe : pipe env directive.chain value state = (.ok (.array items), after))
    (hitems : ∀ entry ∈ items.zipIdx, templateText env budget body entry.1
      (some (.start entry.2 items.length)) after = (.ok (text entry), after))
    (loop : Option Iteration) :
    blockText env (budget + 1) directive value body loop state =
      (.ok (String.join (items.zipIdx.map text)), after) := by
  rw [blockText]
  simp only [nest]
  rw [bind_apply, hpipe]
  simp only [map_eq_pure_bind]
  rw [bind_apply, mapM_of_forall (g := text)]
  · rfl
  · exact hitems

/-- What can stand in the opening tag of a block that is no condition, without segments. -/
structure IsBlockExpression (expression : Text) : Prop where
  standalone : (⟨expression⟩ : Tag).Standalone
  isExpression : (⟨expression⟩ : Tag).kind = .expression expression false
  plain : isConditional expression = false
  noSegment : Backtick.mark ∉ expression
  closer_standalone : (Tag.closerOf (blockToken expression)).Standalone
  closer_kind : (Tag.closerOf (blockToken expression)).kind = .closer (blockToken expression)

instance (expression : Text) : Decidable (IsBlockExpression expression) :=
  decidable_of_iff
    ((⟨expression⟩ : Tag).Standalone ∧
      (⟨expression⟩ : Tag).kind = .expression expression false ∧
      isConditional expression = false ∧ Backtick.mark ∉ expression ∧
      (Tag.closerOf (blockToken expression)).Standalone ∧
      (Tag.closerOf (blockToken expression)).kind = .closer (blockToken expression))
    ⟨fun h => ⟨h.1, h.2.1, h.2.2.1, h.2.2.2.1, h.2.2.2.2.1, h.2.2.2.2.2⟩,
      fun h => ⟨h.standalone, h.isExpression, h.plain, h.noSegment, h.closer_standalone,
        h.closer_kind⟩⟩

theorem target_of_lookup? (nested : Nested H W) {env : Environment H W}
    {directive : Directive} {context value : Value H} {loop : Option Iteration}
    {state : RenderState H W}
    (h : lookup? env state.captures directive context loop = some value) :
    target nested env directive context loop state = (.ok (.ofValue value), state) := by
  have hget : (get : Rendering H W (RenderState H W)) state = (.ok state, state) := rfl
  rw [target, bind_apply, hget]
  unfold lookup? at h
  cases hcapture : state.captures.find? directive.path with
  | some captured =>
      simp only [hcapture, Option.some.injEq] at h ⊢
      subst h
      rfl
  | none =>
      cases hinclude : env.includes.find? directive.path with
      | some inclusion => simp [hcapture, Dictionary.contains, hinclude] at h
      | none =>
          simp only [hcapture, Dictionary.contains, hinclude, Option.isSome_none,
            Bool.false_eq_true, if_false] at h ⊢
          cases hkind : directive.pathKind <;>
            simp only [hkind] at h ⊢ <;> rw [h] <;> rfl

theorem target_of_no_include (nested : Nested H W) {env : Environment H W}
    {directive : Directive} (hinclude : env.includes.find? directive.path = none)
    (context : Value H) (loop : Option Iteration) (state : RenderState H W) :
    target nested env directive context loop state =
      (.ok ((lookup? env state.captures directive context loop).elim .missing .ofValue),
        state) := by
  have hget : (get : Rendering H W (RenderState H W)) state = (.ok state, state) := rfl
  rw [target, bind_apply, hget, lookup?]
  cases hcapture : state.captures.find? directive.path with
  | some captured =>
      simp only [hcapture]
      rfl
  | none =>
      simp only [hcapture, hinclude, Dictionary.contains, Option.isSome_none,
        Bool.false_eq_true, if_false]
      rfl

theorem target_of_inclusion (nested : Nested H W) {env : Environment H W}
    {directive : Directive} {inclusion : Include W} {state : RenderState H W}
    (hcaptures : state.captures.find? directive.path = none)
    (hinclude : env.includes.find? directive.path = some inclusion) (context : Value H)
    (loop : Option Iteration) :
    target nested env directive context loop state =
      (do
        let source ← includeSource inclusion
        Target.inclusion <$> nested (parseTemplate source.toList) context loop :
          Rendering H W (Target H)) state := by
  have hget : (get : Rendering H W (RenderState H W)) state = (.ok state, state) := rfl
  rw [target, bind_apply, hget]
  simp only [hcaptures, hinclude, map_eq_pure_bind]

omit [HostObject H] in
@[simp] theorem toValue_ofValue (value : Value H) : (Target.ofValue value).toValue = value := by
  cases value <;> rfl

omit [HostObject H] in
private theorem ofValue_of_present {value : Value H} (h : value.isUndefined = false) :
    (∃ items, value = .array items) ∨
      (value.asArray? = none ∧ Target.ofValue value = .value value) := by
  cases value with
  | undefined => simp [Value.isUndefined] at h
  | array items => exact .inl ⟨items, rfl⟩
  | _ => exact .inr ⟨rfl, rfl⟩

theorem directiveText_of_lookup? (nested : Nested H W) {env : Environment H W}
    {opening : Opening} {directive : Directive} {context value : Value H}
    {loop : Option Iteration} {state before : RenderState H W}
    (hdirective : directiveOf nested env opening context loop state = (.ok directive, before))
    (hplain : directive.conditional = false)
    (hvalue : lookup? env before.captures directive context loop = some value)
    (hpresent : value.isUndefined = false) (block : Option Block) :
    directiveText nested env opening block context loop state =
      (do
        match ← pipe env directive.chain value with
        | .array items => sequenceText nested block items
        | result =>
            if value.asArray?.isSome then pure (displayed result)
            else valueText nested block loop result : Rendering H W String) before := by
  rw [directiveText, bind_apply, hdirective]
  simp only
  rw [bind_apply, target_of_lookup? _ hvalue]
  simp only [hplain, toValue_ofValue, Bool.false_eq_true, if_false]
  refine congrFun (congrArg (pipe env _ value >>= ·) (funext fun result => ?_)) before
  rcases ofValue_of_present hpresent with ⟨items, rfl⟩ | ⟨harray, htarget⟩
  · cases result <;> rfl
  · rw [htarget, harray]
    cases result <;> rfl

theorem directiveText_expression (nested : Nested H W) {env : Environment H W} {expression : Text}
    (hmark : Backtick.mark ∉ expression) (hplain : isConditional expression = false)
    {context value : Value H} {loop : Option Iteration} (state : RenderState H W)
    (hvalue : lookup? env state.captures
      (.read env.settings.delimiter.toList expression false) context loop = some value)
    (hpresent : value.isUndefined = false) (block : Option Block) :
    directiveText nested env ⟨⟨expression⟩, expression, false⟩ block context loop state =
      (do
        match ← pipe env (Directive.read env.settings.delimiter.toList expression false).chain
            value with
        | .array items => sequenceText nested block items
        | result =>
            if value.asArray?.isSome then pure (displayed result)
            else valueText nested block loop result : Rendering H W String) state := by
  have hdirective : directiveOf nested env ⟨⟨expression⟩, expression, false⟩ context loop state =
      (.ok (.read env.settings.delimiter.toList expression false), state) := by
    rw [directiveOf_of_not_mem _ _ hmark]
    rfl
  exact directiveText_of_lookup? nested hdirective
    ((Directive.conditional_read _ _ _).trans hplain) hvalue hpresent block

theorem sequenceText_block (nested : Nested H W) (block : Block) (items : List (Value H)) :
    sequenceText nested (some block) items =
      String.join <$> items.zipIdx.mapM fun (item, index) =>
        nested block.children item (some (.start index items.length)) :=
  concatMap_eq_join_mapM _ _

theorem templateText_blockDocument (env : Environment H W) (budget : Nat)
    {expression body : Text} (hexpression : IsBlockExpression expression)
    (hbody : IsBody (blockToken expression) body) {context value : Value H}
    {loop : Option Iteration} (state : RenderState H W)
    (hvalue : lookup? env state.captures
      (.read env.settings.delimiter.toList expression false) context loop = some value)
    (hpresent : value.isUndefined = false) :
    templateText env budget (blockDocument expression body) context loop state =
      blockText env budget (.read env.settings.delimiter.toList expression false) value body
        loop state := by
  have htoken : (⟨expression⟩ : Tag).openingToken? = some (blockToken expression) :=
    Tag.openingToken?_eq_some_iff.mpr ⟨hexpression.isExpression, rfl⟩
  have hcloses : (Tag.closerOf (blockToken expression)).closes (blockToken expression) = true := by
    simp [Tag.closes, hexpression.closer_kind]
  rw [blockDocument, templateText_block env budget hexpression.standalone
    hexpression.closer_standalone htoken hcloses hbody, blockText]
  cases budget with
  | zero => rfl
  | succ budget =>
      simp only [nest]
      rw [directiveText_expression _ hexpression.noSegment hexpression.plain state hvalue hpresent]
      refine congrFun (congrArg (pipe env _ value >>= ·) (funext fun result => ?_)) state
      cases result with
      | array items => exact sequenceText_block _ _ items
      | _ => rfl

end Render

namespace Engine

variable {H W : Type} [HostObject H]

/--
A condition with two branches renders to the branch that it selects, as if this
were a template of its own in the same context and loop; the other branch
contributes nothing.
-/
theorem render_conditionDocument {condition whenTrue whenFalse : Text}
    (hcondition : Render.IsCondition condition) (htrue : Render.IsBranch whenTrue)
    (hfalse : Render.IsBranch whenFalse)
    (hapart : Apart (Scan.ofText whenTrue).tags (Scan.ofText whenFalse).tags) :
    (∀ (env : Environment H W) (budget : Nat) (context : Value H) (loop : Option Iteration),
      Render.templateText env budget
          (Render.conditionDocument condition whenTrue whenFalse) context loop =
        Render.conditionText env budget condition whenTrue whenFalse context loop) ∧
    (∀ (engine : Engine H W) (world : W) (context : Value H),
      engine.settings.compact = false →
      (String.ofList (Render.conditionDocument condition whenTrue whenFalse)).utf8ByteSize ≤
        engine.settings.maxTemplateSize →
      engine.render world
          (String.ofList (Render.conditionDocument condition whenTrue whenFalse)) context =
        engine.run world (Render.conditionText engine.toEnvironment engine.settings.maxDepth
          condition whenTrue whenFalse context none)) := by
  constructor
  · intro env budget context loop
    exact Render.templateText_conditionDocument env budget hcondition htrue hfalse hapart
      context loop
  · intro engine world context hcompact hsize
    rw [render_eq_run engine hcompact hsize, String.toList_ofList,
      Render.templateText_conditionDocument _ _ hcondition htrue hfalse hapart]

theorem render_conditionDocument_initial :
    let whenTrue := "{{if x}}p{{else}}{{n}}q{{/n}}{{/if}}"
    let whenFalse := "{{name}}{{#}}r{{/#}}{{/name}}"
    let template := "{{if name|set>n}}" ++ whenTrue ++ "{{else}}" ++ whenFalse ++ "{{/if}}"
    let context := Value.map [("name", .string "s")]
    ((initial : Engine Empty Unit).render () template context).1.toOption = some "q" := by
  intro whenTrue whenFalse template context
  have hrender := (@render_conditionDocument Empty Unit _ "name|set>n".toList
    whenTrue.toList whenFalse.toList (by decide +kernel) (by decide +kernel) (by decide +kernel)
    (by decide +kernel)).2 initial () context rfl (by decide +kernel)
  have htemplate : template = String.ofList (Render.conditionDocument "name|set>n".toList
      whenTrue.toList whenFalse.toList) := by
    decide +kernel
  rw [htemplate, hrender]
  decide +kernel

/--
A block on a path that stands for a value runs the value through its chain and
renders its body, as if this were a template of its own, for each item of an
array or for the value itself.
-/
theorem render_blockDocument {expression body : Text}
    (hexpression : Render.IsBlockExpression expression)
    (hbody : Render.IsBody (blockToken expression) body) :
    (∀ (env : Environment H W) (budget : Nat) (context : Value H) (loop : Option Iteration)
        (state : RenderState H W) (value : Value H),
      Render.lookup? env state.captures
          (.read env.settings.delimiter.toList expression false) context loop = some value →
      value.isUndefined = false →
      Render.templateText env budget (Render.blockDocument expression body) context loop state =
        Render.blockText env budget (.read env.settings.delimiter.toList expression false)
          value body loop state) ∧
    (∀ (engine : Engine H W) (world : W) (context value : Value H),
      Render.lookup? engine.toEnvironment engine.captures
          (.read engine.settings.delimiter.toList expression false) context none = some value →
      value.isUndefined = false →
      engine.settings.compact = false →
      (String.ofList (Render.blockDocument expression body)).utf8ByteSize ≤
        engine.settings.maxTemplateSize →
      engine.render world (String.ofList (Render.blockDocument expression body)) context =
        engine.run world (Render.blockText engine.toEnvironment engine.settings.maxDepth
          (.read engine.settings.delimiter.toList expression false) value body none)) := by
  constructor
  · intro env budget context loop state value hvalue hpresent
    exact Render.templateText_blockDocument env budget hexpression hbody state hvalue hpresent
  · intro engine world context value hvalue hpresent hcompact hsize
    have hblock := Render.templateText_blockDocument engine.toEnvironment
      engine.settings.maxDepth hexpression hbody ⟨engine.captures, world⟩ hvalue hpresent
    rw [render_eq_run engine hcompact hsize, String.toList_ofList, run, hblock, run]

theorem render_blockDocument_initial :
    let body := "{{if seen}},{{/if}}{{if .|set>seen}}{{/if}}<{{items}}x{{/items}}>"
    let items := Value.array [.map [("items", .array [.null])], .map [("items", .array [])]]
    ((initial : Engine Empty Unit).render () ("{{items}}" ++ body ++ "{{/items}}")
      (.map [("items", items)])).1.toOption = some "<x>,<>" := by
  intro body items
  have hread : Directive.read ['>'] "items".toList false = ⟨false, "items", [], false⟩ := by cbv
  have hrender := (@render_blockDocument Empty Unit _ "items".toList body.toList
    (by decide +kernel) (by decide +kernel)).2 initial () (.map [("items", items)]) items
    (by exact hread ▸ rfl) rfl rfl (by decide +kernel)
  have htemplate : "{{items}}" ++ body ++ "{{/items}}" =
      String.ofList (Render.blockDocument "items".toList body.toList) := by
    decide +kernel
  rw [htemplate, hrender]
  decide +kernel

end Engine

end BraceTemplate
