import BraceTemplate.Proofs.Engine.Rendering
import BraceTemplate.Proofs.Filter.KeyOrder

/-!
# Rendering and the order of keys

Two renders are run side by side, from contexts, globals and captured values
that are reordered into one another.  Every step of one corresponds to the same
step of the other: the texts are equal, the values reordered, and so are the
captured values that are left, also where a step fails.
-/

namespace BraceTemplate

/-- From states that go together, the same error or related results, and states that go together. -/
def Corresponds {σ ε α β : Type} (same : σ → σ → Prop) (rel : α → β → Prop)
    (first : ExceptT ε (StateM σ) α) (second : ExceptT ε (StateM σ) β) : Prop :=
  ∀ state other, same state other →
    Outcome rel (first state).1 (second other).1 ∧ same (first state).2 (second other).2

namespace Corresponds

variable {σ ε α β γ δ : Type} {same : σ → σ → Prop}

theorem pure {rel : α → β → Prop} {a : α} {b : β} (h : rel a b) :
    Corresponds same rel (pure a : ExceptT ε (StateM σ) α) (pure b) :=
  fun _ _ hsame => ⟨.ok h, hsame⟩

theorem throw {rel : α → β → Prop} (error : ε) :
    Corresponds same rel (throw error : ExceptT ε (StateM σ) α) (throw error) :=
  fun _ _ hsame => ⟨.error error, hsame⟩

theorem bind {rel : α → β → Prop} {next : γ → δ → Prop} {first : ExceptT ε (StateM σ) α}
    {second : ExceptT ε (StateM σ) β} {f : α → ExceptT ε (StateM σ) γ}
    {g : β → ExceptT ε (StateM σ) δ} (h : Corresponds same rel first second)
    (hnext : ∀ a b, rel a b → Corresponds same next (f a) (g b)) :
    Corresponds same next (first >>= f) (second >>= g) := by
  intro state other hsame
  obtain ⟨houtcome, hafter⟩ := h state other hsame
  rw [Render.bind_apply, Render.bind_apply]
  cases hfirst : first state with
  | mk outcome after =>
      cases hsecond : second other with
      | mk otherOutcome otherAfter =>
          rw [hfirst, hsecond] at houtcome hafter
          cases houtcome with
          | error error => exact ⟨.error error, hafter⟩
          | ok hrel => exact hnext _ _ hrel after otherAfter hafter

theorem map {rel : α → β → Prop} {next : γ → δ → Prop} {first : ExceptT ε (StateM σ) α}
    {second : ExceptT ε (StateM σ) β} (h : Corresponds same rel first second) {f : α → γ}
    {g : β → δ} (hnext : ∀ a b, rel a b → next (f a) (g b)) :
    Corresponds same next (f <$> first) (g <$> second) := by
  rw [map_eq_pure_bind, map_eq_pure_bind]
  exact h.bind fun a b hrel => .pure (hnext a b hrel)

theorem mapM {rel : α → β → Prop} {next : γ → δ → Prop} {items : List α} {others : List β}
    {f : α → ExceptT ε (StateM σ) γ} {g : β → ExceptT ε (StateM σ) δ}
    (h : List.Forall₂ rel items others)
    (hstep : ∀ a b, rel a b → Corresponds same next (f a) (g b)) :
    Corresponds same (List.Forall₂ next) (items.mapM f) (others.mapM g) := by
  induction h with
  | nil =>
      rw [List.mapM_nil, List.mapM_nil]
      exact .pure .nil
  | cons hitem _ ih =>
      rw [List.mapM_cons, List.mapM_cons]
      exact (hstep _ _ hitem).bind fun _ _ hfirst => ih.bind fun _ _ hrest =>
        .pure (.cons hfirst hrest)

theorem foldlM {rel : α → β → Prop} {steps : List γ} {f : α → γ → ExceptT ε (StateM σ) α}
    {g : β → γ → ExceptT ε (StateM σ) β}
    (hstep : ∀ step a b, rel a b → Corresponds same rel (f a step) (g b step)) {a : α} {b : β}
    (h : rel a b) : Corresponds same rel (steps.foldlM f a) (steps.foldlM g b) := by
  induction steps generalizing a b with
  | nil => exact .pure h
  | cons step steps ih =>
      rw [List.foldlM_cons, List.foldlM_cons]
      exact (hstep step a b h).bind fun _ _ hnext => ih hnext

theorem mapM_same {items : List α} {f g : α → ExceptT ε (StateM σ) γ}
    (hstep : ∀ a, Corresponds same Eq (f a) (g a)) :
    Corresponds same Eq (items.mapM f) (items.mapM g) := by
  have hsame : List.Forall₂ Eq items items := List.forall₂_same.mpr fun _ _ => rfl
  have hresults : Corresponds same (List.Forall₂ Eq) (items.mapM f) (items.mapM g) := by
    refine mapM hsame ?_
    rintro a _ rfl
    exact hstep a
  rwa [List.forall₂_eq_eq_eq] at hresults

theorem get_bind {next : γ → δ → Prop} {f : σ → ExceptT ε (StateM σ) γ}
    {g : σ → ExceptT ε (StateM σ) δ}
    (h : ∀ state other, same state other → Corresponds same next (f state) (g other)) :
    Corresponds same next (get >>= f) (get >>= g) :=
  fun state other hsame => h state other hsame state other hsame

end Corresponds

open Value (Reordered)

variable {H W : Type}

/-! ## Chains -/

namespace Chain

theorem capture_corresponds {value other : Value H} (h : value.Reordered other)
    (arguments : List String) :
    Corresponds Dictionary.Reordered Reordered (capture value arguments)
      (capture other arguments) := by
  intro captures others hcaptures
  unfold capture
  split
  · exact ⟨.error _, hcaptures⟩
  · exact ⟨.ok (.refl _), hcaptures.insert _ h⟩

variable {filters : Dictionary (Filter H)}
  (hfilters : ∀ entry ∈ filters, Filter.IgnoresOrder entry.2)

include hfilters

theorem applyStep_corresponds {value other : Value H} (h : value.Reordered other) (step : Step) :
    Corresponds Dictionary.Reordered Reordered (applyStep filters value step)
      (applyStep filters other step) := by
  unfold applyStep
  split
  · exact capture_corresponds h step.arguments
  · split
    · rename_i filter hfilter
      have hmem : (step.name, filter) ∈ filters := by
        obtain ⟨before, after, rfl, -⟩ := List.lookup_eq_some_iff.mp hfilter
        simp
      exact fun captures others hcaptures => ⟨hfilters _ hmem h step.arguments, hcaptures⟩
    · exact .throw _

theorem runStep_corresponds (policy : FailurePolicy) {value other : Value H}
    (h : value.Reordered other) (step : Step) :
    Corresponds Dictionary.Reordered Reordered (runStep filters policy value step)
      (runStep filters policy other step) := by
  intro captures others hcaptures
  obtain ⟨houtcome, hafter⟩ := applyStep_corresponds hfilters h step captures others hcaptures
  unfold runStep
  cases hfirst : applyStep filters value step captures with
  | mk outcome after =>
      cases hsecond : applyStep filters other step others with
      | mk otherOutcome otherAfter =>
          rw [hfirst, hsecond] at houtcome hafter
          cases houtcome with
          | ok hnext => exact ⟨.ok hnext, hafter⟩
          | error cause =>
              cases policy with
              | passthrough => exact ⟨.ok h, hafter⟩
              | propagate => exact ⟨.error _, hafter⟩

theorem run_corresponds (policy : FailurePolicy) (chain : List Step) {value other : Value H}
    (h : value.Reordered other) :
    Corresponds Dictionary.Reordered Reordered (run filters policy chain value)
      (run filters policy chain other) :=
  .foldlM (fun step _ _ hvalue => runStep_corresponds hfilters policy hvalue step) h

end Chain

/-! ## Environments and states -/

structure Environment.Reordered (first second : Environment H W) : Prop where
  filters_eq : first.filters = second.filters
  includes_eq : first.includes = second.includes
  settings_eq : first.settings = second.settings
  globals : first.globals.Reordered second.globals

structure RenderState.Reordered (state other : RenderState H W) : Prop where
  captures : state.captures.Reordered other.captures
  world_eq : state.world = other.world

inductive Target.Reordered : Target H → Target H → Prop where
  | inclusion (text : String) : Reordered (.inclusion text) (.inclusion text)
  | sequence {items others : List (Value H)} :
      List.Forall₂ Value.Reordered items others → Reordered (.sequence items) (.sequence others)
  | value {value other : Value H} :
      value.Reordered other → Reordered (.value value) (.value other)
  | missing : Reordered .missing .missing

namespace Target

theorem ofValue_reordered {value other : Value H} (h : value.Reordered other) :
    (ofValue value).Reordered (ofValue other) := by
  rcases h.shape with rfl | ⟨items, others, rfl, rfl, hitems⟩ | ⟨entries, others, rfl, rfl, -⟩
  · unfold ofValue
    split
    · exact .sequence (Value.Reordered.forall₂_refl _)
    · exact .missing
    · exact .value h
  · exact .sequence hitems
  · exact .value h

theorem toValue_reordered {target other : Target H} (h : target.Reordered other) :
    target.toValue.Reordered other.toValue := by
  cases h with
  | inclusion text => exact .refl _
  | sequence hitems => exact .of_forall₂ hitems
  | value hvalue => exact hvalue
  | missing => exact .refl _

end Target

/-! ## The steps of a render -/

namespace Render

abbrev Matching {α : Type} (rel : α → α → Prop) (first second : Rendering H W α) : Prop :=
  Corresponds RenderState.Reordered rel first second

theorem forall₂_zipIdx {α β : Type} {rel : α → β → Prop} {items : List α} {others : List β}
    (h : List.Forall₂ rel items others) (start : Nat) :
    List.Forall₂ (fun item other => rel item.1 other.1 ∧ item.2 = other.2)
      (items.zipIdx start) (others.zipIdx start) := by
  induction h generalizing start with
  | nil => exact .nil
  | cons hitem _ ih => exact .cons ⟨hitem, rfl⟩ (ih (start + 1))

theorem concatMap_matching {α : Type} {rel : α → α → Prop} {f g : α → Rendering H W String}
    {items others : List α} (h : List.Forall₂ rel items others)
    (hstep : ∀ a b, rel a b → Matching Eq (f a) (g b)) :
    Matching Eq (concatMap f items) (concatMap g others) := by
  rw [concatMap_eq_join_mapM, concatMap_eq_join_mapM]
  refine (Corresponds.mapM h hstep).map fun texts otherTexts htexts => ?_
  rw [List.forall₂_eq_eq_eq] at htexts
  rw [htexts]

theorem includeSource_matching (inclusion : Include W) :
    Matching Eq (includeSource inclusion : Rendering H W String) (includeSource inclusion) := by
  intro state other hstate
  unfold includeSource
  rw [hstate.world_eq]
  exact ⟨.ok rfl, ⟨hstate.captures, rfl⟩⟩

theorem displayed_eq [HostObject H] {value other : Value H} (h : value.Reordered other) :
    displayed value = displayed other := by
  rw [displayed, displayed, h.isUndefined_eq, h.display_eq]

theorem valueText_eq [HostObject H] (nested : Nested H W) (block : Option Block)
    (loop : Option Iteration) (value : Value H) :
    valueText nested block loop value =
      value.asArray?.elim
        (block.elim (pure (displayed value)) fun block =>
          if value.isTruthy then nested block.children value loop else pure placeholder)
        (sequenceText nested block) := by
  cases value <;> cases block <;> rfl

theorem pipe_matching {first second : Environment H W} (henvironment : first.Reordered second)
    (hfilters : ∀ entry ∈ first.filters, Filter.IgnoresOrder entry.2) (chain : List Step)
    {value other : Value H} (h : value.Reordered other) :
    Matching Reordered (pipe first chain value) (pipe second chain other) := by
  intro state otherState hstate
  obtain ⟨houtcome, hcaptures⟩ := Chain.run_corresponds hfilters first.settings.onFilterError
    chain h state.captures otherState.captures hstate.captures
  unfold pipe
  rw [← henvironment.filters_eq, ← henvironment.settings_eq]
  exact ⟨houtcome, ⟨hcaptures, hstate.world_eq⟩⟩

section Nested

variable {nested otherNested : Nested H W}
  (hnested : ∀ nodes ⦃context other : Value H⦄, context.Reordered other → ∀ loop,
    Matching Eq (nested nodes context loop) (otherNested nodes other loop))

include hnested

theorem branchText_matching (block : Option Block) {context other : Value H}
    (h : context.Reordered other) (loop : Option Iteration) (holds : Bool) :
    Matching Eq (branchText nested block context loop holds)
      (branchText otherNested block other loop holds) := by
  unfold branchText
  cases block with
  | none => exact .pure rfl
  | some block => exact hnested _ h loop

section Lookup

variable {first second : Environment H W} (henvironment : first.Reordered second)

include henvironment

theorem directiveOf_matching (opening : Opening) {context other : Value H}
    (h : context.Reordered other) (loop : Option Iteration) :
    Matching Eq (directiveOf nested first opening context loop)
      (directiveOf otherNested second opening other loop) := by
  unfold directiveOf Backtick.expand
  rw [henvironment.settings_eq]
  refine Corresponds.bind (Corresponds.bind (.mapM_same ?_) fun pieces _ hpieces =>
    .pure (congrArg (_ ++ List.flatten ·) hpieces)) fun body _ hbody => .pure (by rw [hbody])
  rintro ⟨inner, after⟩
  exact (hnested _ h loop).bind fun text _ htext => .pure (by rw [htext])

variable [HostObject H]

theorem target_matching (directive : Directive) {context other : Value H}
    (h : context.Reordered other) (loop : Option Iteration) :
    Matching Target.Reordered (target nested first directive context loop)
      (target otherNested second directive other loop) := by
  unfold target
  rw [henvironment.includes_eq]
  refine .get_bind fun state otherState hstate => ?_
  have hcaptured := hstate.captures.find? directive.path
  dsimp only
  generalize state.captures.find? directive.path = captured? at hcaptured ⊢
  generalize otherState.captures.find? directive.path = other? at hcaptured ⊢
  cases hcaptured with
  | some hvalue => exact .pure (Target.ofValue_reordered hvalue)
  | none =>
      dsimp only
      split
      · rename_i inclusion _
        refine (includeSource_matching inclusion).bind fun text _ htext => ?_
        subst htext
        refine (hnested _ h loop).bind fun output _ houtput => ?_
        subst houtput
        exact .pure (.inclusion output)
      · have hfound : ∀ {value? other? : Option (Value H)}, Option.Rel Reordered value? other? →
            Matching Target.Reordered
              (pure (value?.elim .missing .ofValue) : Rendering H W (Target H))
              (pure (other?.elim .missing .ofValue)) := by
          intro value? other? hvalue
          cases hvalue with
          | none => exact .pure .missing
          | some hvalue => exact .pure (Target.ofValue_reordered hvalue)
        apply hfound
        cases directive.pathKind with
        | counter => exact Reordered.option_refl _
        | self => exact .some h
        | property => exact Path.resolve?_reordered hstate.captures henvironment.globals _ h

end Lookup

variable [HostObject H]

theorem sequenceText_matching (block : Option Block) {items others : List (Value H)}
    (h : List.Forall₂ Reordered items others) :
    Matching Eq (sequenceText nested block items) (sequenceText otherNested block others) := by
  unfold sequenceText
  cases block with
  | none =>
      rw [Filter.map_eq h fun _ _ hitem => displayed_eq hitem]
      exact .pure rfl
  | some block =>
      rw [h.length_eq]
      refine concatMap_matching (forall₂_zipIdx h 0) ?_
      rintro ⟨item, index⟩ ⟨other, otherIndex⟩ ⟨hitem, rfl⟩
      exact hnested _ hitem _

theorem valueText_matching (block : Option Block) (loop : Option Iteration)
    {value other : Value H} (h : value.Reordered other) :
    Matching Eq (valueText nested block loop value) (valueText otherNested block loop other) := by
  have hitems := h.asArray?
  rw [valueText_eq, valueText_eq, ← displayed_eq h, ← h.isTruthy_eq]
  generalize value.asArray? = items? at hitems ⊢
  generalize other.asArray? = others? at hitems ⊢
  cases hitems with
  | some hitems => exact sequenceText_matching hnested block hitems
  | none =>
      cases block with
      | none => exact .pure rfl
      | some block =>
          simp only [Option.elim]
          split
          · exact hnested _ h loop
          · exact .pure rfl

variable {first second : Environment H W} (henvironment : first.Reordered second)
  (hfilters : ∀ entry ∈ first.filters, Filter.IgnoresOrder entry.2)

include henvironment hfilters

omit hnested [HostObject H] in
theorem conditionHolds_matching (chain : List Step) {value other : Value H}
    (h : value.Reordered other) :
    Matching Eq (conditionHolds first chain value) (conditionHolds second chain other) := by
  unfold conditionHolds
  split
  · exact .pure h.isTruthy_eq
  · exact (pipe_matching henvironment hfilters chain h).bind fun result _ hresult =>
      .pure (by rw [hresult.isFalse_eq])

theorem directiveText_matching (opening : Opening) (block : Option Block)
    {context other : Value H} (h : context.Reordered other) (loop : Option Iteration) :
    Matching Eq (directiveText nested first opening block context loop)
      (directiveText otherNested second opening block other loop) := by
  unfold directiveText
  refine (directiveOf_matching hnested henvironment opening h loop).bind
    fun directive _ hdirective => ?_
  subst hdirective
  refine (target_matching hnested henvironment directive h loop).bind
    fun found otherFound hfound => ?_
  have hsource := Target.toValue_reordered hfound
  split
  · refine (conditionHolds_matching henvironment hfilters directive.chain hsource).bind
      fun holds _ hholds => ?_
    subst hholds
    exact branchText_matching hnested block h loop holds
  · refine (pipe_matching henvironment hfilters directive.chain hsource).bind
      fun value otherValue hvalue => ?_
    cases hfound with
    | inclusion text => exact .pure (displayed_eq hvalue)
    | sequence _ =>
        rcases hvalue.shape with rfl | ⟨items, others, rfl, rfl, hitems⟩ |
          ⟨entries, others, rfl, rfl, -⟩
        · dsimp only
          split
          · exact sequenceText_matching hnested block (Reordered.forall₂_refl _)
          · exact .pure rfl
        · exact sequenceText_matching hnested block hitems
        · exact .pure (displayed_eq hvalue)
    | value _ => exact valueText_matching hnested block loop hvalue
    | missing =>
        rw [displayed_eq hvalue]
        exact .pure rfl

theorem nodeText_matching {context other : Value H} (h : context.Reordered other)
    (loop : Option Iteration) (node : Node) :
    Matching Eq (nodeText nested first context loop node)
      (nodeText otherNested second other loop node) := by
  cases node with
  | literal t => exact .pure rfl
  | separator tag => exact .pure rfl
  | directive opening =>
      exact directiveText_matching hnested henvironment hfilters opening none h loop
  | block opening token children separatorIndex =>
      exact directiveText_matching hnested henvironment hfilters opening _ h loop

end Nested

theorem nodesText_matching [HostObject H] {first second : Environment H W}
    (henvironment : first.Reordered second)
    (hfilters : ∀ entry ∈ first.filters, Filter.IgnoresOrder entry.2) (budget : Nat)
    (nodes : List Node) {context other : Value H} (h : context.Reordered other)
    (loop : Option Iteration) :
    Matching Eq (nodesText first budget nodes context loop)
      (nodesText second budget nodes other loop) := by
  induction budget generalizing nodes context other loop with
  | zero =>
      rw [nodesText, nodesText, henvironment.settings_eq]
      exact .throw _
  | succ budget ih =>
      have hnested : ∀ nodes ⦃context other : Value H⦄, context.Reordered other → ∀ loop,
          Matching Eq (nodesText first budget nodes context loop)
            (nodesText second budget nodes other loop) :=
        fun nodes _ _ h loop => ih nodes h loop
      have hnodes : List.Forall₂ Eq nodes nodes := List.forall₂_same.mpr fun _ _ => rfl
      refine concatMap_matching hnodes ?_
      rintro node _ rfl
      exact nodeText_matching hnested henvironment hfilters h loop node

end Render

namespace Engine

/-- Differ in the order of the entries of maps in global and captured values only. -/
structure Reordered (engine other : Engine H W) : Prop where
  environment : engine.toEnvironment.Reordered other.toEnvironment
  captures : engine.captures.Reordered other.captures

variable [HostObject H]

/--
The order of the entries of maps does not show: with built-in filters alone, it
changes neither the outcome of a render nor the world after it, and of what is
captured no more than this order.
-/
theorem render_reordered {engine other : Engine H W} (hengine : engine.Reordered other)
    (hbuiltin : ∀ entry ∈ engine.filters, ∃ name, (name, entry.2) ∈ (Registry.builtin : Registry H))
    (world : W) (template : String) {context otherContext : Value H}
    (hcontext : context.Reordered otherContext) :
    let result := engine.render world template context
    let otherResult := other.render world template otherContext
    result.1 = otherResult.1 ∧ result.2.1.Reordered otherResult.2.1 ∧
      result.2.2 = otherResult.2.2 := by
  intro result otherResult
  obtain ⟨henvironment, hcaptures⟩ := hengine
  have hfilters : ∀ entry ∈ engine.filters, Filter.IgnoresOrder entry.2 := by
    intro entry hentry
    obtain ⟨name, hmem⟩ := hbuiltin entry hentry
    exact Registry.ignoresOrder_of_mem_builtin (name, entry.2) hmem
  have hsettings := henvironment.settings_eq
  rcases Nat.lt_or_ge engine.settings.maxTemplateSize template.utf8ByteSize with hlarge | hsize
  · have hresult : result = (.error (.templateTooLarge _ _), engine, world) := if_pos hlarge
    have hother : otherResult = (.error (.templateTooLarge _ _), other, world) :=
      if_pos (hsettings ▸ hlarge)
    rw [hresult, hother, hsettings]
    exact ⟨rfl, ⟨henvironment, hcaptures⟩, rfl⟩
  · have hnodes := Render.nodesText_matching henvironment hfilters engine.settings.maxDepth
      (parseTemplate template.toList) hcontext none ⟨engine.captures, world⟩
      ⟨other.captures, world⟩ ⟨hcaptures, rfl⟩
    have hresult : result = _ := render_eq_map_run engine hsize world context
    have hother : otherResult = _ := render_eq_map_run other (hsettings ▸ hsize) world otherContext
    rw [hresult, hother, ← hsettings, run, run, Render.templateText, Render.templateText]
    obtain ⟨houtcome, hstate⟩ := hnodes
    refine ⟨?_, ⟨henvironment, hstate.captures⟩, hstate.world_eq⟩
    exact congrArg (Except.map (finishOutput engine.settings)) houtcome.eq

theorem render_reordered_initial :
    let point : Value Empty := .map [("x", .null), ("y", .bool true)]
    let turned : Value Empty := .map [("y", .bool true), ("x", .null)]
    let engine := fun value => (initial : Engine Empty Unit).setGlobal "all" value
    let entries := [("one", Value.string "1"), ("two", point), ("three", .array [.null])]
    let backwards := [("three", Value.array [.null]), ("two", turned), ("one", .string "1")]
    let template := "{{two}}{{one}}{{y}},{{/two}}{{two|set>kept}}{{all.y}}{{three}}{{kept.y}}"
    let result := (engine point).render () template (.map entries)
    let otherResult := (engine turned).render () template (.map backwards)
    otherResult.1.toOption = some "???true,truenulltrue" ∧
      result.2.1.captures.Reordered otherResult.2.1.captures := by
  intro point turned engine entries backwards template result otherResult
  have hpoint : point.Reordered turned := .swap [] [] (by decide)
  have hcontext : (Value.map entries).Reordered (.map backwards) :=
    .trans (.of_perm (List.reverse_perm entries).symm (by decide))
      (.entry [("three", .array [.null])] "two" [("one", .string "1")] hpoint)
  have hengine : (engine point).Reordered (engine turned) :=
    ⟨⟨rfl, rfl, rfl, .cons ⟨rfl, hpoint⟩ .nil⟩, .nil⟩
  obtain ⟨houtcome, hafter, -⟩ := render_reordered hengine
    (fun entry hentry => ⟨entry.1, hentry⟩) () template hcontext
  refine ⟨?_, hafter.captures⟩
  rw [← houtcome]
  decide +kernel

end Engine

end BraceTemplate
