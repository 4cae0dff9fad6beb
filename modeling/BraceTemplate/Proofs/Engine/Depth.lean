import BraceTemplate.Proofs.Engine.Simulation

/-!
# The depth of a render

A budget stands for a recursion that counts how deep it is: one level is counted
up before its nodes are rendered and down behind them, nothing is rendered
beyond the limit, and a failure leaves the count where it is.  Here the count is
kept in the world of the producers.  The recursion ends after as many levels as
the limit allows, whatever the includes are, and renders what the budget does.
-/

namespace BraceTemplate

/-- A world, the depth of the nodes being rendered, and the depths of all nodes rendered so far. -/
structure Counted (W : Type) where
  world : W
  depth : Nat
  visited : List Nat

variable {H W : Type}

def Include.counted : Include W → Include (Counted W)
  | .text source => .text source
  | .producer produce => .producer fun count =>
      let (template, world) := produce count.world
      (template, { count with world })

def Environment.counted (env : Environment H W) : Environment H (Counted W) :=
  ⟨env.filters, env.includes.map fun (name, inclusion) => (name, inclusion.counted),
    env.globals, env.settings⟩

namespace Environment

variable (env : Environment H W)

theorem globals_eq_counted : env.globals = env.counted.globals := rfl

theorem delimiter_eq_counted : env.settings.delimiter = env.counted.settings.delimiter := rfl

theorem find?_includes_counted (name : String) :
    env.counted.includes.find? name = (env.includes.find? name).map Include.counted := by
  unfold counted
  simp only
  induction env.includes with
  | nil => rfl
  | cons entry rest ih =>
      obtain ⟨other, inclusion⟩ := entry
      rw [List.map_cons, Dictionary.find?_cons, Dictionary.find?_cons, ih]
      split <;> rfl

end Environment

namespace Render

/-! ## Counting levels -/

def enter : Rendering H (Counted W) Unit :=
  modify fun state => { state with world.depth := state.world.depth + 1 }

def leave : Rendering H (Counted W) Unit :=
  modify fun state => { state with world.depth := state.world.depth - 1 }

def visit : Rendering H (Counted W) Unit :=
  modify fun state => { state with world.visited := state.world.depth :: state.world.visited }

variable [HostObject H]

def level (env : Environment H W) (below : Nested H (Counted W)) : Nested H (Counted W) :=
  fun nodes context loop => do
    enter
    if env.settings.maxDepth < (← get).world.depth then
      throw (.depthLimit env.settings.maxDepth)
    else
      let output ← concatMap
        (fun node => do
          visit
          nodeText below env.counted context loop node)
        nodes
      leave
      return output

/-- The recursion over so many levels; `below` stands for all levels under them. -/
def unfolded (env : Environment H W) (below : Nested H (Counted W)) : Nat → Nested H (Counted W)
  | 0 => below
  | levels + 1 => level env (unfolded env below levels)

/-! ## Counted runs -/

def erase (state : RenderState H (Counted W)) : RenderState H W :=
  ⟨state.captures, state.world.world⟩

def Within (limit : Nat) (state : RenderState H (Counted W)) : Prop :=
  ∀ depth ∈ state.world.visited, depth ≤ limit

def Counts (limit depth : Nat) {α : Type} (plain : Rendering H W α)
    (counting : Rendering H (Counted W) α) : Prop :=
  ∀ state, state.world.depth = depth → ∃ outcome after,
    counting state = (outcome, after) ∧
    plain (erase state) = (outcome, erase after) ∧
    (∀ value, outcome = .ok value → after.world.depth = depth) ∧
    (Within limit state → Within limit after)

namespace Counts

variable {limit depth : Nat} {α β : Type}

omit [HostObject H]

theorem pure (a : α) :
    Counts limit depth (pure a : Rendering H W α) (pure a : Rendering H (Counted W) α) := by
  intro state hdepth
  exact ⟨.ok a, state, rfl, rfl, fun _ _ => hdepth, id⟩

theorem bind {plain : Rendering H W α} {counting : Rendering H (Counted W) α}
    {next : α → Rendering H W β} {nextCounting : α → Rendering H (Counted W) β}
    (h : Counts limit depth plain counting)
    (hnext : ∀ a, Counts limit depth (next a) (nextCounting a)) :
    Counts limit depth (plain >>= next) (counting >>= nextCounting) := by
  intro state hdepth
  obtain ⟨outcome, after, hcounting, hplain, hback, hwithin⟩ := h state hdepth
  rw [bind_apply, bind_apply, hcounting, hplain]
  cases outcome with
  | error error => exact ⟨.error error, after, rfl, rfl, nofun, hwithin⟩
  | ok a =>
      obtain ⟨outcome, last, hcounting, hplain, hback, hlast⟩ :=
        hnext a after (hback a rfl)
      exact ⟨outcome, last, hcounting, hplain, hback, hlast ∘ hwithin⟩

theorem visit_bind (hdepth : depth ≤ limit) {plain : Rendering H W α}
    {counting : Rendering H (Counted W) α} (h : Counts limit depth plain counting) :
    Counts limit depth plain (visit >>= fun _ => counting) := by
  intro state hstate
  let visited : RenderState H (Counted W) :=
    { state with world.visited := state.world.depth :: state.world.visited }
  obtain ⟨outcome, after, hcounting, hplain, hback, hwithin⟩ := h visited hstate
  refine ⟨outcome, after, ?_, hplain, hback, fun hstart => hwithin ?_⟩
  · exact hcounting
  · intro other hother
    rcases List.mem_cons.mp hother with rfl | hother
    · exact hstate ▸ hdepth
    · exact hstart other hother

end Counts

omit [HostObject H] in
theorem counts_includeSource (limit depth : Nat) (inclusion : Include W) :
    Counts limit depth (includeSource inclusion : Rendering H W String)
      (includeSource inclusion.counted) := by
  intro state hdepth
  cases inclusion with
  | text source => exact ⟨.ok source, state, rfl, rfl, fun _ _ => hdepth, id⟩
  | producer produce =>
      let count := state.world
      let after : RenderState H (Counted W) :=
        { state with world := { count with world := (produce count.world).2 } }
      exact ⟨.ok (produce count.world).1, after, rfl, rfl, fun _ _ => hdepth, id⟩

omit [HostObject H] in
theorem counts_pipe (env : Environment H W) (limit depth : Nat) (chain : List Step)
    (value : Value H) :
    Counts limit depth (pipe env chain value) (pipe env.counted chain value) := by
  intro state hdepth
  let result := Chain.run env.filters env.settings.onFilterError chain value state.captures
  exact ⟨result.1, { state with captures := result.2 }, rfl, rfl, fun _ _ => hdepth, id⟩

def counting (env : Environment H W) (limit depth : Nat) : Simulation env env.counted where
  Rel := Counts limit depth
  rel_pure := .pure
  rel_bind := .bind
  rel_get h state := h (erase state) state rfl state
  rel_includeSource name := by
    rw [env.find?_includes_counted]
    cases env.includes.find? name with
    | none => exact .none
    | some inclusion => exact .some (counts_includeSource limit depth inclusion)
  rel_pipe := counts_pipe env limit depth
  globals_eq := env.globals_eq_counted
  delimiter_eq := env.delimiter_eq_counted

/-! ## All levels -/

section Level

variable (env : Environment H W) (below : Nested H (Counted W)) (nodes : List Node)
  (context : Value H) (loop : Option Iteration) {state : RenderState H (Counted W)}

theorem level_of_limit_le (h : env.settings.maxDepth ≤ state.world.depth) :
    level env below nodes context loop state =
      (.error (.depthLimit env.settings.maxDepth),
        { state with world.depth := state.world.depth + 1 }) := by
  have hbeyond : env.settings.maxDepth < state.world.depth + 1 := Nat.lt_succ_of_le h
  -- the guard reads the depth after `enter`
  change (if env.settings.maxDepth < state.world.depth + 1 then _ else _ :
    Rendering H (Counted W) String) _ = _
  rw [if_pos hbeyond]
  rfl

theorem level_of_lt_limit (h : state.world.depth < env.settings.maxDepth) :
    level env below nodes context loop state =
      match concatMap (fun node => visit >>= fun _ =>
          nodeText below env.counted context loop node) nodes
          { state with world.depth := state.world.depth + 1 } with
      | (.ok output, after) =>
          (.ok output, { after with world.depth := after.world.depth - 1 })
      | (.error error, after) => (.error error, after) := by
  have hwithin : ¬ env.settings.maxDepth < state.world.depth + 1 := by omega
  change (if env.settings.maxDepth < state.world.depth + 1 then _ else _ :
    Rendering H (Counted W) String) _ = _
  rw [if_neg hwithin, bind_apply]
  cases concatMap _ nodes _ with
  | mk outcome after => cases outcome <;> rfl

end Level

theorem counts_level (env : Environment H W) {budget depth : Nat} {below : Nested H (Counted W)}
    (hbudget : depth + (budget + 1) = env.settings.maxDepth)
    (hbelow : ∀ nodes context loop, Counts env.settings.maxDepth (depth + 1)
      (nodesText env budget nodes context loop) (below nodes context loop))
    (nodes : List Node) (context : Value H) (loop : Option Iteration) :
    Counts env.settings.maxDepth depth (nodesText env (budget + 1) nodes context loop)
      (level env below nodes context loop) := by
  have hnode := (counting env env.settings.maxDepth (depth + 1)).rel_nodeText hbelow context loop
  have hnodes := (counting env env.settings.maxDepth (depth + 1)).rel_concatMap
    fun node (_ : node ∈ nodes) => (hnode node).visit_bind (by omega)
  intro state hdepth
  subst hdepth
  rw [level_of_lt_limit env below nodes context loop (by omega)]
  obtain ⟨outcome, after, hcounting, hplain, hback, hwithin⟩ :=
    hnodes { state with world.depth := state.world.depth + 1 } rfl
  rw [hcounting]
  cases outcome with
  | error error => exact ⟨.error error, after, rfl, hplain, nofun, hwithin⟩
  | ok output =>
      refine ⟨.ok output, _, rfl, hplain, fun _ _ => ?_, hwithin⟩
      simp [hback output rfl]

theorem counts_unfolded (env : Environment H W) (below : Nested H (Counted W)) {levels depth : Nat}
    (hpositive : 0 < levels) (hlevels : env.settings.maxDepth < levels + depth)
    (nodes : List Node) (context : Value H) (loop : Option Iteration) :
    Counts env.settings.maxDepth depth
      (nodesText env (env.settings.maxDepth - depth) nodes context loop)
      (unfolded env below levels nodes context loop) := by
  -- every level is entered one deeper, so the limit is reached before `below` is
  induction levels generalizing depth nodes context loop with
  | zero => omega
  | succ levels ih =>
      rcases Nat.lt_or_ge depth env.settings.maxDepth with hlt | hge
      · obtain ⟨budget, hbudget⟩ := Nat.exists_eq_add_of_lt hlt
        have hinner : env.settings.maxDepth - (depth + 1) = budget := by omega
        rw [show env.settings.maxDepth - depth = budget + 1 by omega]
        apply counts_level env (by omega)
        intro nodes context loop
        rw [← hinner]
        exact ih (by omega) (by omega) nodes context loop
      · -- the budget is used up where the guard stops the level
        rw [Nat.sub_eq_zero_of_le hge]
        intro state hdepth
        subst hdepth
        exact ⟨_, _, level_of_limit_le env _ nodes context loop hge, rfl, nofun, id⟩

/-! ## The renderer -/

def Restores {α : Type} (counting : Rendering H (Counted W) α) : Prop :=
  ∀ state value after, counting state = (.ok value, after) →
    after.world.depth = state.world.depth

def SettledAt (depth : Nat) {α : Type} (first second : Rendering H (Counted W) α) : Prop :=
  ∀ state, state.world.depth = depth → second state = first state ∧
    ∀ value after, first state = (.ok value, after) → after.world.depth = depth

section Settled

variable {α β : Type} {depth : Nat}

omit [HostObject H]

theorem Restores.of_counts {limit : Nat} {plain : Nat → Rendering H W α}
    {counting : Rendering H (Counted W) α}
    (h : ∀ depth, Counts limit depth (plain depth) counting) : Restores counting := by
  intro state value after hrun
  obtain ⟨outcome, last, hcounting, -, hback, -⟩ := h state.world.depth state rfl
  rw [hrun] at hcounting
  cases hcounting
  exact hback value rfl

theorem pure_restores (a : α) : Restores (pure a : Rendering H (Counted W) α) := by
  intro state value after hrun
  cases hrun
  rfl

theorem visit_restores : Restores (visit : Rendering H (Counted W) Unit) := by
  intro state value after hrun
  cases hrun
  rfl

theorem SettledAt.of_restores {counting : Rendering H (Counted W) α} (h : Restores counting) :
    SettledAt depth counting counting :=
  fun state hdepth => ⟨rfl, fun value after hrun => (h state value after hrun).trans hdepth⟩

theorem SettledAt.bind {first second : Rendering H (Counted W) α}
    {next other : α → Rendering H (Counted W) β} (h : SettledAt depth first second)
    (hnext : ∀ a, SettledAt depth (next a) (other a)) :
    SettledAt depth (first >>= next) (second >>= other) := by
  intro state hdepth
  obtain ⟨hsame, hback⟩ := h state hdepth
  rw [bind_apply, bind_apply, hsame]
  cases hfirst : first state with
  | mk outcome middle =>
      cases outcome with
      | error error => exact ⟨rfl, nofun⟩
      | ok a => exact hnext a middle (hback a middle hfirst)

def settling (env : Environment H W) (depth : Nat) : Simulation env.counted env.counted where
  Rel := SettledAt depth
  rel_pure a := .of_restores (pure_restores a)
  rel_bind := .bind
  rel_get h state := h state state rfl state
  rel_includeSource name := by
    rw [env.find?_includes_counted]
    cases env.includes.find? name with
    | none => exact .none
    | some inclusion =>
        exact .some (.of_restores (.of_counts fun depth => counts_includeSource 0 depth inclusion))
  rel_pipe chain value :=
    .of_restores (.of_counts fun depth => counts_pipe env 0 depth chain value)
  globals_eq := rfl
  delimiter_eq := rfl

end Settled

theorem settled_level (env : Environment H W) {depth : Nat} {below other : Nested H (Counted W)}
    (hdepth : depth < env.settings.maxDepth)
    (hbelow : ∀ nodes context loop,
      SettledAt (depth + 1) (below nodes context loop) (other nodes context loop))
    (nodes : List Node) (context : Value H) (loop : Option Iteration) :
    SettledAt depth (level env below nodes context loop) (level env other nodes context loop) := by
  have hnode := (settling env (depth + 1)).rel_nodeText hbelow context loop
  have hnodes := (settling env (depth + 1)).rel_concatMap
    fun node (_ : node ∈ nodes) =>
      (SettledAt.of_restores visit_restores).bind fun _ => hnode node
  intro state hstate
  subst hstate
  rw [level_of_lt_limit env below nodes context loop hdepth,
    level_of_lt_limit env other nodes context loop hdepth]
  obtain ⟨hsame, hback⟩ := hnodes { state with world.depth := state.world.depth + 1 } rfl
  rw [hsame]
  cases hrun : concatMap _ nodes _ with
  | mk outcome after =>
      cases outcome with
      | error error => exact ⟨rfl, nofun⟩
      | ok output =>
          refine ⟨rfl, ?_⟩
          intro value last hlast
          cases hlast
          simp [hback output after hrun]

theorem settled_unfolded (env : Environment H W) (below other : Nested H (Counted W))
    {levels more depth : Nat} (hpositive : 0 < levels)
    (hlevels : env.settings.maxDepth < levels + depth) (hmore : levels ≤ more)
    (nodes : List Node) (context : Value H) (loop : Option Iteration) :
    SettledAt depth (unfolded env below levels nodes context loop)
      (unfolded env other more nodes context loop) := by
  induction levels generalizing more depth nodes context loop with
  | zero => omega
  | succ levels ih =>
      obtain ⟨more, rfl⟩ := Nat.exists_eq_add_of_le' (Nat.lt_of_lt_of_le hpositive hmore)
      rcases Nat.lt_or_ge depth env.settings.maxDepth with hlt | hge
      · apply settled_level env hlt
        intro nodes context loop
        exact ih (by omega) (by omega) (by omega) nodes context loop
      · intro state hdepth
        subst hdepth
        rw [unfolded, unfolded, level_of_limit_le env _ nodes context loop hge,
          level_of_limit_le env _ nodes context loop hge]
        exact ⟨rfl, nofun⟩

def renderer (env : Environment H W) : Nested H (Counted W) :=
  unfolded env (fun _ _ _ => throw (.depthLimit env.settings.maxDepth)) (env.settings.maxDepth + 1)

theorem unfolded_eq_renderer (env : Environment H W) (below : Nested H (Counted W)) {levels : Nat}
    (h : env.settings.maxDepth < levels) : unfolded env below levels = renderer env := by
  funext nodes context loop state
  exact (settled_unfolded env _ below (Nat.succ_pos _) (by omega) h nodes context loop state rfl).1

theorem renderer_eq_level (env : Environment H W) : renderer env = level env (renderer env) :=
  (unfolded_eq_renderer env _ (by omega : env.settings.maxDepth < env.settings.maxDepth + 2)).symm

theorem counts_renderer (env : Environment H W) (depth : Nat) (nodes : List Node)
    (context : Value H) (loop : Option Iteration) :
    Counts env.settings.maxDepth depth
      (nodesText env (env.settings.maxDepth - depth) nodes context loop)
      (renderer env nodes context loop) :=
  counts_unfolded env _ (Nat.succ_pos _) (by omega) nodes context loop

end Render

namespace Engine

variable [HostObject H]

/-- A render by the counting recursion, from depth zero on. -/
def renderCounting (engine : Engine H W) (world : W) (template : String) (context : Value H) :
    Except RenderError String × Engine H W × W :=
  let limit := engine.settings.maxTemplateSize
  if limit < template.utf8ByteSize then
    (.error (.templateTooLarge template.utf8ByteSize limit), engine, world)
  else
    let (outcome, state) := Render.renderer engine.toEnvironment (parseTemplate template.toList)
      context none ⟨engine.captures, ⟨world, 0, []⟩⟩
    (outcome.map (finishOutput engine.settings),
      { engine with captures := state.captures }, state.world.world)

theorem render_eq_renderCounting (engine : Engine H W) (world : W) (template : String)
    (context : Value H) :
    engine.render world template context = engine.renderCounting world template context := by
  obtain ⟨outcome, after, hcounting, hplain, -, -⟩ :=
    Render.counts_renderer engine.toEnvironment 0 (parseTemplate template.toList) context none
      ⟨engine.captures, ⟨world, 0, []⟩⟩ rfl
  rw [Nat.sub_zero] at hplain
  have hnodes : Render.nodesText engine.toEnvironment engine.settings.maxDepth
      (parseTemplate template.toList) context none ⟨engine.captures, world⟩ =
        (outcome, Render.erase after) := hplain
  rw [render, renderCounting, hcounting, hnodes]
  rfl

/--
A render finishes: the recursion that counts its depth up and down is settled
after so many levels as the limit allows, whatever stands under them.  It renders
no node beyond the limit and gives every text at the depth that it was asked at.
-/
theorem render_finishes (engine : Engine H W) :
    let env := engine.toEnvironment
    let renderer := Render.renderer env
    renderer = Render.level env renderer ∧
      (∀ below levels, env.settings.maxDepth < levels →
        Render.unfolded env below levels = renderer) ∧
      (∀ world template context,
        engine.render world template context = engine.renderCounting world template context) ∧
      (∀ nodes context loop state, Render.Within env.settings.maxDepth state →
        Render.Within env.settings.maxDepth (renderer nodes context loop state).2) ∧
      (∀ nodes context loop, Render.Restores (renderer nodes context loop)) ∧
      (∀ t context loop, Render.Restores (renderer (parseTemplate t) context loop)) ∧
      ∀ opening block context loop,
        Render.Restores (Render.directiveText renderer env.counted opening block context loop) := by
  intro env renderer
  have hnodes : ∀ nodes context loop, Render.Restores (renderer nodes context loop) :=
    fun nodes context loop =>
      .of_counts fun depth => Render.counts_renderer env depth nodes context loop
  refine ⟨Render.renderer_eq_level env, fun below levels => Render.unfolded_eq_renderer env below,
    engine.render_eq_renderCounting, ?_, hnodes, fun t => hnodes (parseTemplate t), ?_⟩
  · intro nodes context loop state hwithin
    obtain ⟨outcome, after, hcounting, -, -, hafter⟩ :=
      Render.counts_renderer env state.world.depth nodes context loop state rfl
    rw [show renderer nodes context loop state = (outcome, after) from hcounting]
    exact hafter hwithin
  · intro opening block context loop
    exact .of_counts fun depth =>
      (Render.counting env env.settings.maxDepth depth).rel_directiveText
        (Render.counts_renderer env depth) opening block context loop

theorem render_finishes_circular :
    let settings := { Settings.initial with maxDepth := 2 }
    let engine : Engine Empty Unit :=
      ⟨⟨[], [("a", .text "{{b}}"), ("b", .text "{{a}}")], [], settings⟩, []⟩
    let below : Render.Nested Empty (Counted Unit) := fun _ _ _ => pure "end"
    engine.settings.maxDepth < 3 ∧
      Render.unfolded engine.toEnvironment below 3 = Render.renderer engine.toEnvironment ∧
      ((engine.render () "{{a}}" .null).1.tryCatch fun error => .ok error.message).toOption =
        some "Render depth limit of 2 exceeded" := by
  intro settings engine below
  obtain ⟨-, hsettled, hrender, -⟩ := engine.render_finishes
  refine ⟨by decide, hsettled below 3 (by decide), ?_⟩
  rw [hrender]
  decide +kernel

end Engine

end BraceTemplate
