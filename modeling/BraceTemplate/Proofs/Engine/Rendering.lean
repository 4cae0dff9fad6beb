import BraceTemplate.Engine.Render

/-!
# Laws of rendering

Nodes are rendered one after the other: the text of a list of nodes is the
concatenation of the texts of its nodes, and a text on its own renders as
itself.  `templateText` renders a template text with a budget, `nest` spends
one level of it, and `Engine.run` is a render of an engine without its guard on
the size and without compaction.
-/

namespace BraceTemplate

theorem eq_ok_of_toOption {ε α : Type} {outcome : Except ε α} {a : α}
    (h : outcome.toOption = some a) : outcome = .ok a := by
  cases outcome with
  | error error => simp [Except.toOption] at h
  | ok value => simpa [Except.toOption] using h

namespace Render

variable {H W : Type}

/-! ## One step after another -/

theorem pure_apply {σ ε α : Type} (a : α) (state : σ) :
    (pure a : ExceptT ε (StateM σ) α) state = (.ok a, state) := rfl

theorem bind_apply {σ ε α β : Type} (first : ExceptT ε (StateM σ) α)
    (next : α → ExceptT ε (StateM σ) β) (state : σ) :
    (first >>= next) state =
      match first state with
      | (.ok a, state) => next a state
      | (.error error, state) => (.error error, state) := by
  simp only [bind, ExceptT.bind, ExceptT.mk, StateT.bind]
  cases first state with
  | mk outcome state => cases outcome <;> rfl

theorem mapM_of_forall {α β : Type} {f : α → Rendering H W β} {g : α → β}
    {state : RenderState H W} {items : List α}
    (h : ∀ item ∈ items, f item state = (.ok (g item), state)) :
    items.mapM f state = (.ok (items.map g), state) := by
  induction items with
  | nil => rfl
  | cons item items ih =>
      obtain ⟨hitem, hitems⟩ := List.forall_mem_cons.mp h
      rw [List.mapM_cons, bind_apply, hitem]
      simp only [bind_apply, ih hitems, pure_apply, List.map_cons]

/-! ## Concatenation -/

theorem concatMap_eq_join_mapM {α : Type} (f : α → Rendering H W String) (items : List α) :
    concatMap f items = String.join <$> items.mapM f := by
  -- the texts so far stand in front of what the fold adds
  have general : ∀ init : String,
      items.foldlM (fun output item => (output ++ ·) <$> f item) init =
        (init ++ String.join ·) <$> items.mapM f := by
    induction items with
    | nil => simp
    | cons item items ih =>
        intro init
        simp only [List.foldlM_cons, List.mapM_cons, ih, bind_map_left, map_bind,
          Functor.map_map, String.join_cons, String.append_assoc, bind_pure_comp]
  have hjoin := general ""
  simp only [String.empty_append] at hjoin
  simpa only [concatMap, bind_pure_comp] using hjoin

@[simp] theorem concatMap_singleton {α : Type} (f : α → Rendering H W String) (item : α) :
    concatMap f [item] = f item := by
  simp [concatMap_eq_join_mapM]

theorem concatMap_append {α : Type} (f : α → Rendering H W String) (first second : List α) :
    concatMap f (first ++ second) = do
      let a ← concatMap f first
      let b ← concatMap f second
      return a ++ b := by
  simp [concatMap_eq_join_mapM]

variable [HostObject H]

/-! ## Template texts -/

def templateText (env : Environment H W) (budget : Nat) (template : Text)
    (context : Value H) (loop : Option Iteration) : Rendering H W String :=
  nodesText env budget (parseTemplate template) context loop

def nest (env : Environment H W) (budget : Nat) (inside : Nat → Rendering H W String) :
    Rendering H W String :=
  match budget with
  | 0 => throw (.depthLimit env.settings.maxDepth)
  | budget + 1 => inside budget

theorem nodesText_eq_nest (env : Environment H W) (budget : Nat) (nodes : List Node)
    (context : Value H) (loop : Option Iteration) :
    nodesText env budget nodes context loop =
      nest env budget fun inner =>
        concatMap (nodeText (nodesText env inner) env context loop) nodes := by
  cases budget <;> rfl

theorem nodesText_append (env : Environment H W) (budget : Nat) (first second : List Node)
    (context : Value H) (loop : Option Iteration) :
    nodesText env budget (first ++ second) context loop = do
      let a ← nodesText env budget first context loop
      let b ← nodesText env budget second context loop
      return a ++ b := by
  cases budget with
  | zero => rfl
  | succ budget => exact concatMap_append _ first second

theorem nodesText_ofLiteral (env : Environment H W) (budget : Nat) (t : Text)
    (context : Value H) (loop : Option Iteration) :
    nodesText env budget (Node.ofLiteral t) context loop =
      nest env budget fun _ => pure (String.ofList t) := by
  rw [nodesText_eq_nest]
  congr
  funext inner
  unfold Node.ofLiteral
  split
  · rename_i hempty
    rw [List.isEmpty_iff.mp hempty]
    rfl
  · rw [concatMap_singleton]
    rfl

theorem nodesText_ofLiteral_append (env : Environment H W) (budget : Nat) (first second : Text)
    (nodes : List Node) (context : Value H) (loop : Option Iteration) :
    nodesText env budget (Node.ofLiteral (first ++ second) ++ nodes) context loop =
      nodesText env budget (Node.ofLiteral first ++ (Node.ofLiteral second ++ nodes))
        context loop := by
  simp only [nodesText_append, nodesText_ofLiteral]
  cases budget with
  | zero => rfl
  | succ budget => simp [nest, String.append_assoc, -bind_pure_comp]

end Render

namespace Engine

variable {H W : Type} [HostObject H]

def run (engine : Engine H W) (world : W) (rendering : Rendering H W String) :
    Except RenderError String × Engine H W × W :=
  let (outcome, state) := rendering ⟨engine.captures, world⟩
  (outcome, { engine with captures := state.captures }, state.world)

theorem render_eq_map_run (engine : Engine H W) {template : String}
    (hsize : template.utf8ByteSize ≤ engine.settings.maxTemplateSize) (world : W)
    (context : Value H) :
    engine.render world template context =
      let (outcome, after) := engine.run world (Render.templateText engine.toEnvironment
        engine.settings.maxDepth template.toList context none)
      (outcome.map (finishOutput engine.settings), after) := by
  rw [render, if_neg (Nat.not_lt.mpr hsize)]
  rfl

theorem render_eq_run (engine : Engine H W) {template : String}
    (hcompact : engine.settings.compact = false)
    (hsize : template.utf8ByteSize ≤ engine.settings.maxTemplateSize)
    (world : W) (context : Value H) :
    engine.render world template context =
      engine.run world (Render.templateText engine.toEnvironment engine.settings.maxDepth
        template.toList context none) := by
  have hfinish : ∀ outcome : Except RenderError String,
      outcome.map (finishOutput engine.settings) = outcome := by
    intro outcome
    cases outcome with
    | error error => rfl
    | ok output => simp [Except.map, finishOutput, hcompact]
  rw [render_eq_map_run engine hsize]
  simp only [hfinish]

end Engine

end BraceTemplate
