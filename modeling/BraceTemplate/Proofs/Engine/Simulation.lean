import BraceTemplate.Proofs.Engine.Rendering

/-!
# Simulations

A simulation is a relation between the computations of two environments that
the steps of rendering keep.  Rendering a node is made of such steps alone, and
of rendering what is nested: it is in the relation if that is, for all that the
node can ask to be rendered.
-/

namespace BraceTemplate

def Opening.expressions (opening : Opening) : List (List Node) :=
  (Backtick.segments opening.body).2.map fun segment =>
    parseTemplate (Tag.text ⟨segment.1⟩)

def Block.parts (block : Block) : List (List Node) :=
  [block.children, thenBranch block.children block.separatorIndex,
    elseBranch block.children block.separatorIndex]

def Node.nested : Node → List (List Node)
  | .directive opening => opening.expressions
  | .block opening _ children separatorIndex =>
      opening.expressions ++ Block.parts ⟨children, separatorIndex⟩
  | _ => []

namespace Render

variable {H W V : Type}

/--
The two environments agree on all but the policy and the limits, and may differ in their
worlds.
-/
structure Simulation (first : Environment H W) (second : Environment H V) where
  Rel : {α : Type} → Rendering H W α → Rendering H V α → Prop
  rel_pure : ∀ {α : Type} (a : α), Rel (pure a) (pure a)
  rel_bind : ∀ {α β : Type} {x : Rendering H W α} {y : Rendering H V α}
    {f : α → Rendering H W β} {g : α → Rendering H V β},
    Rel x y → (∀ a, Rel (f a) (g a)) → Rel (x >>= f) (y >>= g)
  rel_get : ∀ {α : Type} {f : RenderState H W → Rendering H W α}
    {g : RenderState H V → Rendering H V α},
    (∀ state other, state.captures = other.captures → Rel (f state) (g other)) →
      Rel (get >>= f) (get >>= g)
  rel_includeSource : ∀ name, Option.Rel
    (fun inclusion other => Rel (includeSource inclusion) (includeSource other))
    (first.includes.find? name) (second.includes.find? name)
  rel_pipe : ∀ chain value, Rel (pipe first chain value) (pipe second chain value)
  globals_eq : first.globals = second.globals
  delimiter_eq : first.settings.delimiter = second.settings.delimiter

namespace Simulation

def ofProperty {env : Environment H W} (Holds : {α : Type} → Rendering H W α → Prop)
    (hpure : ∀ {α : Type} (a : α), Holds (pure a))
    (hbind : ∀ {α β : Type} {x : Rendering H W α} {f : α → Rendering H W β},
      Holds x → (∀ a, Holds (f a)) → Holds (x >>= f))
    (hget : ∀ {α : Type} {f : RenderState H W → Rendering H W α},
      (∀ state, Holds (f state)) → Holds (get >>= f))
    (hinclude : ∀ inclusion : Include W, Holds (includeSource inclusion))
    (hpipe : ∀ chain value, Holds (pipe env chain value)) : Simulation env env where
  Rel first _ := Holds first
  rel_pure := hpure
  rel_bind := hbind
  rel_get h := hget fun state => h state state rfl
  rel_includeSource name := by
    cases env.includes.find? name with
    | none => exact .none
    | some inclusion => exact .some (hinclude inclusion)
  rel_pipe := hpipe
  globals_eq := rfl
  delimiter_eq := rfl

variable {first : Environment H W} {second : Environment H V} (simulation : Simulation first second)

include simulation

theorem rel_map {α β : Type} (f : α → β) {x : Rendering H W α} {y : Rendering H V α}
    (h : simulation.Rel x y) : simulation.Rel (f <$> x) (f <$> y) := by
  rw [map_eq_pure_bind, map_eq_pure_bind]
  exact simulation.rel_bind h fun a => simulation.rel_pure (f a)

theorem rel_mapM {α β : Type} {f : α → Rendering H W β} {g : α → Rendering H V β}
    {items : List α} (h : ∀ item ∈ items, simulation.Rel (f item) (g item)) :
    simulation.Rel (items.mapM f) (items.mapM g) := by
  induction items with
  | nil =>
      rw [List.mapM_nil, List.mapM_nil]
      exact simulation.rel_pure []
  | cons item items ih =>
      rw [List.mapM_cons, List.mapM_cons]
      refine simulation.rel_bind (h item List.mem_cons_self) fun result => ?_
      have hitems := ih fun other hother => h other (List.mem_cons_of_mem item hother)
      exact simulation.rel_bind hitems fun results => simulation.rel_pure _

theorem rel_concatMap {α : Type} {f : α → Rendering H W String} {g : α → Rendering H V String}
    {items : List α} (h : ∀ item ∈ items, simulation.Rel (f item) (g item)) :
    simulation.Rel (concatMap f items) (concatMap g items) := by
  rw [concatMap_eq_join_mapM, concatMap_eq_join_mapM]
  exact simulation.rel_map _ (simulation.rel_mapM h)

/-! ## The parts of a directive -/

theorem rel_conditionHolds (chain : List Step) (value : Value H) :
    simulation.Rel (conditionHolds first chain value) (conditionHolds second chain value) := by
  unfold conditionHolds
  split
  · exact simulation.rel_pure _
  · exact simulation.rel_bind (simulation.rel_pipe chain value) fun result =>
      simulation.rel_pure _

section Nested

variable {nested : Nested H W} {other : Nested H V} {asked : List Node → Prop}
  (hnested : ∀ nodes, asked nodes → ∀ context loop,
    simulation.Rel (nested nodes context loop) (other nodes context loop))

include hnested

theorem rel_directiveOf {opening : Opening} (hopening : ∀ nodes ∈ opening.expressions, asked nodes)
    (context : Value H) (loop : Option Iteration) :
    simulation.Rel (directiveOf nested first opening context loop)
      (directiveOf other second opening context loop) := by
  unfold directiveOf Backtick.expand
  rw [simulation.delimiter_eq]
  refine simulation.rel_bind (simulation.rel_bind (simulation.rel_mapM ?_) fun pieces =>
    simulation.rel_pure _) fun body => simulation.rel_pure _
  rintro ⟨inner, after⟩ hsegment
  have hasked := hopening _ (List.mem_map_of_mem hsegment)
  exact simulation.rel_bind (hnested _ hasked context loop) fun result => simulation.rel_pure _

theorem rel_branchText {block : Option Block}
    (hblock : ∀ b ∈ block, ∀ nodes ∈ b.parts, asked nodes) (context : Value H)
    (loop : Option Iteration) (holds : Bool) :
    simulation.Rel (branchText nested block context loop holds)
      (branchText other block context loop holds) := by
  unfold branchText
  cases block with
  | none => exact simulation.rel_pure _
  | some block =>
      apply hnested
      apply hblock block rfl
      cases holds <;> simp [Block.parts]

variable [HostObject H]

theorem rel_target
    (hinclusion : ∀ name inclusion, first.includes.find? name = some inclusion →
      ∀ t, asked (parseTemplate t))
    (directive : Directive) (context : Value H) (loop : Option Iteration) :
    simulation.Rel (target nested first directive context loop)
      (target other second directive context loop) := by
  unfold target
  refine simulation.rel_get fun state state' hcaptures => ?_
  simp only [hcaptures, simulation.globals_eq]
  cases state'.captures.find? directive.path with
  | some value => exact simulation.rel_pure _
  | none =>
      have hsource := simulation.rel_includeSource directive.path
      have hasked := hinclusion directive.path
      generalize first.includes.find? directive.path = inclusion? at hsource hasked ⊢
      generalize second.includes.find? directive.path = other? at hsource ⊢
      cases hsource with
      | none => exact simulation.rel_pure _
      | some hsource =>
          refine simulation.rel_bind hsource fun text => ?_
          have hinner := hnested _ (hasked _ rfl text.toList) context loop
          exact simulation.rel_bind hinner fun output => simulation.rel_pure _

theorem rel_sequenceText {block : Option Block}
    (hblock : ∀ b ∈ block, ∀ nodes ∈ b.parts, asked nodes) (items : List (Value H)) :
    simulation.Rel (sequenceText nested block items) (sequenceText other block items) := by
  unfold sequenceText
  cases block with
  | none => exact simulation.rel_pure _
  | some block =>
      apply simulation.rel_concatMap
      rintro ⟨item, index⟩ -
      exact hnested _ (hblock block rfl block.children (by simp [Block.parts])) item _

theorem rel_valueText {block : Option Block}
    (hblock : ∀ b ∈ block, ∀ nodes ∈ b.parts, asked nodes) (loop : Option Iteration)
    (value : Value H) :
    simulation.Rel (valueText nested block loop value) (valueText other block loop value) := by
  unfold valueText
  split
  · exact simulation.rel_sequenceText hnested hblock _
  · cases block with
    | none => exact simulation.rel_pure _
    | some block =>
        dsimp only
        split
        · exact hnested _ (hblock block rfl block.children (by simp [Block.parts])) _ loop
        · exact simulation.rel_pure _

theorem rel_directiveText_of_asked
    (hinclusion : ∀ name inclusion, first.includes.find? name = some inclusion →
      ∀ t, asked (parseTemplate t))
    {opening : Opening} (hopening : ∀ nodes ∈ opening.expressions, asked nodes)
    {block : Option Block} (hblock : ∀ b ∈ block, ∀ nodes ∈ b.parts, asked nodes)
    (context : Value H) (loop : Option Iteration) :
    simulation.Rel (directiveText nested first opening block context loop)
      (directiveText other second opening block context loop) := by
  unfold directiveText
  refine simulation.rel_bind (simulation.rel_directiveOf hnested hopening context loop)
    fun directive => ?_
  refine simulation.rel_bind (simulation.rel_target hnested hinclusion directive context loop)
    fun found => ?_
  split
  · refine simulation.rel_bind (simulation.rel_conditionHolds directive.chain found.toValue)
      fun holds => ?_
    exact simulation.rel_branchText hnested hblock context loop holds
  · refine simulation.rel_bind (simulation.rel_pipe directive.chain found.toValue)
      fun value => ?_
    cases found with
    | inclusion text => exact simulation.rel_pure _
    | sequence items =>
        cases value with
        | array results => exact simulation.rel_sequenceText hnested hblock results
        | _ => exact simulation.rel_pure _
    | value original => exact simulation.rel_valueText hnested hblock loop value
    | missing => exact simulation.rel_pure _

/-! ## Nodes -/

theorem rel_nodeText_of_asked
    (hinclusion : ∀ name inclusion, first.includes.find? name = some inclusion →
      ∀ t, asked (parseTemplate t))
    {node : Node} (hnode : ∀ nodes ∈ node.nested, asked nodes) (context : Value H)
    (loop : Option Iteration) :
    simulation.Rel (nodeText nested first context loop node)
      (nodeText other second context loop node) := by
  cases node with
  | literal t => exact simulation.rel_pure _
  | separator tag => exact simulation.rel_pure _
  | directive opening =>
      exact simulation.rel_directiveText_of_asked hnested hinclusion hnode (by simp) context loop
  | block opening token children separatorIndex =>
      refine simulation.rel_directiveText_of_asked hnested hinclusion
        (fun nodes hmem => hnode nodes (List.mem_append_left _ hmem)) ?_ context loop
      intro block hblock nodes hmem
      obtain rfl := Option.some.inj hblock
      exact hnode nodes (List.mem_append_right _ hmem)

end Nested

section Everywhere

variable {nested : Nested H W} {other : Nested H V}
  (hnested : ∀ nodes context loop,
    simulation.Rel (nested nodes context loop) (other nodes context loop))

include hnested

variable [HostObject H]

theorem rel_directiveText (opening : Opening) (block : Option Block) (context : Value H)
    (loop : Option Iteration) :
    simulation.Rel (directiveText nested first opening block context loop)
      (directiveText other second opening block context loop) :=
  simulation.rel_directiveText_of_asked (fun nodes (_ : True) => hnested nodes)
    (fun _ _ _ _ => trivial) (fun _ _ => trivial) (fun _ _ _ _ => trivial) context loop

theorem rel_nodeText (context : Value H) (loop : Option Iteration) (node : Node) :
    simulation.Rel (nodeText nested first context loop node)
      (nodeText other second context loop node) :=
  simulation.rel_nodeText_of_asked (fun nodes (_ : True) => hnested nodes)
    (fun _ _ _ _ => trivial) (fun _ _ => trivial) context loop

end Everywhere

variable [HostObject H]

theorem rel_nodesText
    (hlimit : simulation.Rel (throw (.depthLimit first.settings.maxDepth) : Rendering H W String)
      (throw (.depthLimit second.settings.maxDepth)))
    (budget : Nat) (nodes : List Node) (context : Value H) (loop : Option Iteration) :
    simulation.Rel (nodesText first budget nodes context loop)
      (nodesText second budget nodes context loop) := by
  induction budget generalizing nodes context loop with
  | zero => exact hlimit
  | succ budget ih =>
      exact simulation.rel_concatMap fun node _ => simulation.rel_nodeText ih context loop node

theorem rel_nodesText_of_le
    (hlimit : ∀ other : Rendering H V String,
      simulation.Rel (throw (.depthLimit first.settings.maxDepth)) other)
    {budget larger : Nat} (hle : budget ≤ larger) (nodes : List Node) (context : Value H)
    (loop : Option Iteration) :
    simulation.Rel (nodesText first budget nodes context loop)
      (nodesText second larger nodes context loop) := by
  induction budget generalizing larger nodes context loop with
  | zero => exact hlimit _
  | succ budget ih =>
      obtain ⟨inner, rfl⟩ := Nat.exists_eq_add_of_le' (Nat.lt_of_lt_of_le (Nat.succ_pos _) hle)
      have hinner := fun nodes context loop =>
        ih (Nat.le_of_succ_le_succ hle) nodes context loop
      exact simulation.rel_concatMap fun node _ =>
        simulation.rel_nodeText hinner context loop node

end Simulation

end Render

end BraceTemplate
