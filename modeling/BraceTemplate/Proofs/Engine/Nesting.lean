import BraceTemplate.Proofs.Engine.Limits
import BraceTemplate.Proofs.Engine.Policy
import BraceTemplate.Proofs.Template.Printing
import BraceTemplate.Proofs.Template.Segment

/-!
# How deep a template nests

Without includes a render goes as deep as the blocks of its template are nested
in one another, and one level deeper for the segments between backticks, which
hold neither blocks nor segments of their own.
-/

namespace BraceTemplate

namespace Node

/-! ## Nesting of blocks -/

mutual

/-- The greatest number of blocks that are nested in one another. -/
def nesting : Node → Nat
  | .block _ _ children _ => nestingOfList children + 1
  | _ => 0

def nestingOfList : List Node → Nat
  | [] => 0
  | node :: rest => max (nesting node) (nestingOfList rest)

end

theorem nesting_le_of_mem {node : Node} {nodes : List Node} (h : node ∈ nodes) :
    nesting node ≤ nestingOfList nodes := by
  induction nodes with
  | nil => exact absurd h List.not_mem_nil
  | cons other rest ih =>
      rw [nestingOfList]
      rcases List.mem_cons.mp h with rfl | hrest
      · exact Nat.le_max_left _ _
      · exact Nat.le_trans (ih hrest) (Nat.le_max_right _ _)

theorem nestingOfList_le_of_subset {part nodes : List Node} (h : part ⊆ nodes) :
    nestingOfList part ≤ nestingOfList nodes := by
  induction part with
  | nil => exact Nat.zero_le _
  | cons node part ih =>
      rw [nestingOfList, Nat.max_le]
      obtain ⟨hnode, hpart⟩ := List.cons_subset.mp h
      exact ⟨nesting_le_of_mem hnode, ih hpart⟩

theorem allOfList_subset_of_subset {part nodes : List Node} (h : part ⊆ nodes) :
    allOfList part ⊆ allOfList nodes := by
  intro node hnode
  rw [allOfList_eq_flatMap, List.mem_flatMap] at hnode ⊢
  obtain ⟨other, hother, hall⟩ := hnode
  exact ⟨other, h hother, hall⟩

theorem mem_allOfList {node : Node} {nodes : List Node} (h : node ∈ nodes) :
    node ∈ allOfList nodes :=
  allOfList_subset_of_subset (List.cons_subset.mpr ⟨h, List.nil_subset _⟩)
    (mem_allOfList_self node [])

/-! ## Expressions -/

theorem prefix_tail {first second : Text} (h : first <+: second) : first.tail <+: second.tail := by
  obtain ⟨rest, rfl⟩ := h
  cases first with
  | nil => exact List.nil_prefix
  | cons c first => exact ⟨rest, rfl⟩

def opening? : Node → Option Opening
  | .directive opening => some opening
  | .block opening _ _ _ => some opening
  | _ => none

theorem opening?_ofLiteral {t : Text} {node : Node} (h : node ∈ allOfList (ofLiteral t)) :
    node.opening? = none := by
  unfold ofLiteral at h
  split at h
  · exact absurd h List.not_mem_nil
  · simp only [allOfList, all, List.append_nil, List.mem_singleton] at h
    rw [h]
    rfl

end Node

theorem Tag.opening_of_node {tag : Tag} {node : Node} (hnode : node ∈ Node.allOfList [tag.node])
    {opening : Opening} (h : node.opening? = some opening) :
    opening.tag = tag ∧ opening.body <+: tag.inner := by
  have hall : Node.allOfList [tag.node] = [tag.node] := by
    unfold Tag.node
    split <;> rfl
  rw [hall, List.mem_singleton] at hnode
  subst hnode
  unfold Tag.node at h
  split at h
  · cases h
  · cases h
    exact ⟨rfl, List.prefix_rfl⟩
  · rename_i hkind
    cases h
    exact ⟨rfl, Tag.prefix_inner_of_kind hkind⟩

theorem opening_of_mem_treeOfTags {tagged : List (Text × Tag)} {tail : Text} {node : Node}
    (hnode : node ∈ Node.allOfList (treeOfTags tagged tail)) {opening : Opening}
    (h : node.opening? = some opening) :
    opening.tag ∈ tagged.map Prod.snd ∧ opening.body <+: opening.tag.inner := by
  induction tagged, tail using treeOfTags_induction with
  | nil tail =>
      rw [treeOfTags_nil] at hnode
      simp [Node.opening?_ofLiteral hnode] at h
  | plain before tag rest tail hcloser ih =>
      rw [treeOfTags_cons_plain hcloser, ← List.singleton_append, Node.allOfList_append,
        Node.allOfList_append, List.mem_append, List.mem_append] at hnode
      rcases hnode with hliteral | htag | hrest
      · simp [Node.opening?_ofLiteral hliteral] at h
      · obtain ⟨rfl, hbody⟩ := Tag.opening_of_node htag h
        exact ⟨by simp, hbody⟩
      · obtain ⟨hmem, hbody⟩ := ih hrest
        exact ⟨List.mem_cons_of_mem _ hmem, hbody⟩
  | block before tag inside last closer after tail hcloser ihInside ihAfter =>
      rw [treeOfTags_cons_block hcloser, Node.allOfList_append, Node.allOfList, Node.ofBlock,
        Node.all, List.mem_append, List.mem_append, List.mem_cons] at hnode
      rcases hnode with hliteral | (rfl | hinside) | hafter
      · simp [Node.opening?_ofLiteral hliteral] at h
      · cases h
        exact ⟨by simp, List.prefix_rfl⟩
      · obtain ⟨hmem, hbody⟩ := ihInside hinside
        exact ⟨by simp_all, hbody⟩
      · obtain ⟨hmem, hbody⟩ := ihAfter hafter
        exact ⟨by simp_all, hbody⟩

theorem Block.subset_of_mem_parts {block : Block} {part : List Node} (h : part ∈ block.parts) :
    part ⊆ block.children := by
  simp only [parts, List.mem_cons, List.not_mem_nil, or_false] at h
  rcases h with rfl | rfl | rfl
  · exact List.Subset.refl _
  · unfold thenBranch
    split
    · exact List.take_subset _ _
    · exact List.Subset.refl _
  · unfold elseBranch
    split
    · exact List.Subset.trans (List.takeWhile_subset _) (List.drop_subset _ _)
    · exact List.nil_subset _

/-! ## Levels of a tree -/

namespace Node

/-- One level, if there is any, suffices for the segments in the expressions of the nodes. -/
def SegmentsWithin (extra : Nat) (nodes : List Node) : Prop :=
  ∀ node ∈ allOfList nodes, ∀ opening, node.opening? = some opening →
    ∀ segment ∈ (Backtick.segments opening.body).2, Backtick.IsInner segment.1 ∧ 1 ≤ extra

/-- Holds fewer nested blocks than there are levels, and leaves one for its segments. -/
def FitsIn (levels : Nat) (nodes : List Node) : Prop :=
  ∃ extra, SegmentsWithin extra nodes ∧ nestingOfList nodes + extra < levels

variable {extra levels : Nat} {nodes : List Node}

theorem SegmentsWithin.of_subset {part : List Node} (h : SegmentsWithin extra nodes)
    (hpart : allOfList part ⊆ allOfList nodes) : SegmentsWithin extra part :=
  fun node hnode => h node (hpart hnode)

theorem nesting_of_isInner {t : Text} (h : Backtick.IsInner t) :
    nestingOfList (parseTemplate (Tag.text ⟨t⟩)) = 0 ∧
      ∀ node ∈ allOfList (parseTemplate (Tag.text ⟨t⟩)), ∀ opening,
        node.opening? = some opening → Backtick.mark ∉ opening.body.tail := by
  obtain ⟨tag, rest, hparse, hinner⟩ := Backtick.parseTemplate_of_isInner h
  rw [hparse]
  constructor
  · have hrest : nestingOfList (ofLiteral rest) = 0 := by
      unfold ofLiteral
      split <;> rfl
    have htag : nesting tag.node = 0 := by
      unfold Tag.node
      split <;> rfl
    rw [nestingOfList, hrest, htag]
    rfl
  · intro node hnode opening hopening hmark
    rw [← List.singleton_append, allOfList_append, List.mem_append] at hnode
    rcases hnode with htag | hliteral
    · obtain ⟨-, hbody⟩ := Tag.opening_of_node htag hopening
      exact h.noMark ((prefix_tail (hbody.trans hinner)).subset hmark)
    · simp [opening?_ofLiteral hliteral] at hopening

theorem segmentsWithin_of_isInner {t : Text} (h : Backtick.IsInner t) :
    SegmentsWithin 0 (parseTemplate (Tag.text ⟨t⟩)) := by
  intro node hnode opening hopening segment hsegment
  have hmark := (nesting_of_isInner h).2 node hnode opening hopening
  rw [Backtick.segments_of_not_mem_tail hmark] at hsegment
  exact absurd hsegment List.not_mem_nil

theorem FitsIn.expression (h : FitsIn (levels + 1) nodes) {node : Node} (hnode : node ∈ nodes)
    {opening : Opening} (hopening : node.opening? = some opening) :
    ∀ tree ∈ opening.expressions, FitsIn levels tree := by
  intro tree htree
  obtain ⟨segment, hsegment, rfl⟩ := List.mem_map.mp htree
  obtain ⟨extra, hsegments, hlevels⟩ := h
  obtain ⟨hinner, hextra⟩ := hsegments node (mem_allOfList hnode) opening hopening segment hsegment
  refine ⟨0, segmentsWithin_of_isInner hinner, ?_⟩
  rw [(nesting_of_isInner hinner).1]
  omega

theorem FitsIn.part (h : FitsIn (levels + 1) nodes) {opening : Opening} {token : Text}
    {children : List Node} {separatorIndex : Option Nat}
    (hblock : .block opening token children separatorIndex ∈ nodes) :
    ∀ part ∈ Block.parts ⟨children, separatorIndex⟩, FitsIn levels part := by
  intro part hpart
  obtain ⟨extra, hsegments, hlevels⟩ := h
  have hsubset : part ⊆ children := Block.subset_of_mem_parts hpart
  have hinside : allOfList children ⊆ allOfList nodes := by
    intro node hnode
    rw [allOfList_eq_flatMap, List.mem_flatMap]
    exact ⟨_, hblock, List.mem_cons_of_mem _ hnode⟩
  have hnesting := nesting_le_of_mem hblock
  have hchildren := nestingOfList_le_of_subset hsubset
  rw [nesting] at hnesting
  refine ⟨extra, hsegments.of_subset ?_, by omega⟩
  exact List.Subset.trans (allOfList_subset_of_subset hsubset) hinside

theorem FitsIn.nested (h : FitsIn (levels + 1) nodes) {node : Node} (hnode : node ∈ nodes) :
    ∀ tree ∈ node.nested, FitsIn levels tree := by
  intro tree htree
  cases node with
  | literal t => exact absurd htree List.not_mem_nil
  | separator tag => exact absurd htree List.not_mem_nil
  | directive opening => exact h.expression hnode rfl tree htree
  | block opening token children separatorIndex =>
      rcases List.mem_append.mp htree with hexpression | hpart
      · exact h.expression hnode rfl tree hexpression
      · exact h.part hnode tree hpart

end Node

namespace Render

variable {H W : Type}

theorem pipe_failsOnlyBy_isFilter (env : Environment H W) (chain : List Step) (value : Value H) :
    FailsOnlyBy RenderError.IsFilter (pipe env chain value) := by
  intro state error after h
  unfold pipe at h
  cases hrun : Chain.run env.filters env.settings.onFilterError chain value state.captures with
  | mk outcome captures =>
      rw [hrun] at h
      cases h
      exact Chain.run_failsOnlyBy env.filters _ chain value _ _ _ hrun

variable [HostObject H]

theorem nodesText_failsOnlyBy_of_fitsIn {env : Environment H W} (hincludes : env.includes = [])
    {budget : Nat} {nodes : List Node} (h : Node.FitsIn budget nodes) (context : Value H)
    (loop : Option Iteration) :
    FailsOnlyBy RenderError.IsFilter (nodesText env budget nodes context loop) := by
  induction budget generalizing nodes context loop with
  | zero =>
      obtain ⟨extra, -, hlevels⟩ := h
      exact absurd hlevels (Nat.not_lt_zero _)
  | succ budget ih =>
      have hinclusion : ∀ name inclusion, env.includes.find? name = some inclusion →
          ∀ t, Node.FitsIn budget (parseTemplate t) := by
        intro name inclusion hfound
        simp [hincludes] at hfound
      let simulation := confinement RenderError.IsFilter env (pipe_failsOnlyBy_isFilter env)
      have hnode : ∀ node ∈ nodes, simulation.Rel
          (nodeText (nodesText env budget) env context loop node)
          (nodeText (nodesText env budget) env context loop node) :=
        fun node hnode => simulation.rel_nodeText_of_asked (fun nodes h => ih h) hinclusion
          (h.nested hnode) context loop
      exact simulation.rel_concatMap hnode

end Render

namespace Engine

variable {H W : Type} [HostObject H]

private theorem render_ne_depthLimit_of_fitsIn {engine : Engine H W}
    (hincludes : engine.includes = []) {template : String}
    (h : Node.FitsIn engine.settings.maxDepth (parseTemplate template.toList)) (world : W)
    (context : Value H) (limit : Nat) :
    (engine.render world template context).1 ≠ .error (.depthLimit limit) := by
  intro herror
  rcases Nat.lt_or_ge engine.settings.maxTemplateSize template.utf8ByteSize with hlarge | hsize
  · rw [render, if_pos hlarge] at herror
    cases herror
  · have hnodes := Render.nodesText_failsOnlyBy_of_fitsIn hincludes h context none
    rw [render_eq_map_run engine hsize, run, Render.templateText] at herror
    cases hrun : Render.nodesText engine.toEnvironment engine.settings.maxDepth
        (parseTemplate template.toList) context none ⟨engine.captures, world⟩ with
    | mk outcome after =>
        rw [hrun] at herror
        cases outcome with
        | ok output => cases herror
        | error error =>
            cases herror
            obtain ⟨name, cause, hfilter⟩ := hnodes _ _ _ hrun
            cases hfilter

/--
Without includes only nested blocks, and one level of segments between
backticks, use levels up: the expression of a segment has no segments.
-/
theorem render_ne_depthLimit {engine : Engine H W} (hincludes : engine.includes = [])
    (template : String) :
    let tree := parseTemplate template.toList
    let limit := engine.settings.maxDepth
    (Node.nestingOfList tree + 2 ≤ limit → ∀ world context exceeded,
        (engine.render world template context).1 ≠ .error (.depthLimit exceeded)) ∧
      ((∀ tag ∈ (Scan.ofText template.toList).tags, Backtick.mark ∉ tag.inner) →
        Node.nestingOfList tree + 1 ≤ limit → ∀ world context exceeded,
          (engine.render world template context).1 ≠ .error (.depthLimit exceeded)) ∧
      ∀ node ∈ Node.allOfList tree, ∀ opening, node.opening? = some opening →
        ∀ segment ∈ (Backtick.segments opening.body).2,
          ∀ inner ∈ Node.allOfList (parseTemplate (Tag.text ⟨segment.1⟩)),
            ∀ expression, inner.opening? = some expression →
              ∀ evaluate : Text → Rendering H W String,
                Backtick.expand evaluate expression.body = pure expression.body := by
  intro tree limit
  have hopening : ∀ node ∈ Node.allOfList tree, ∀ opening, node.opening? = some opening →
      opening.tag ∈ (Scan.ofText template.toList).tags ∧ opening.body <+: opening.tag.inner := by
    intro node hnode opening hopening
    rw [show tree = _ from parseTemplate_eq_tree _] at hnode
    exact opening_of_mem_treeOfTags hnode hopening
  have hinner : ∀ node ∈ Node.allOfList tree, ∀ opening, node.opening? = some opening →
      ∀ segment ∈ (Backtick.segments opening.body).2, Backtick.IsInner segment.1 := by
    intro node hnode opening hfound segment hsegment
    obtain ⟨htag, hbody⟩ := hopening node hnode opening hfound
    refine Backtick.isInner_of_mem_segments (fun hclosing => ?_) hsegment
    exact Scan.noClosing_of_mem_tags htag (hclosing.trans (Node.prefix_tail hbody).isInfix)
  refine ⟨fun hlevels => ?_, fun hmark hlevels => ?_, ?_⟩
  · have hsegments : Node.SegmentsWithin 1 tree := fun node hnode opening hfound segment hsegment =>
      ⟨hinner node hnode opening hfound segment hsegment, Nat.le_refl 1⟩
    have hfits : Node.FitsIn limit tree := ⟨1, hsegments, hlevels⟩
    exact render_ne_depthLimit_of_fitsIn hincludes hfits
  · have hsegments : Node.SegmentsWithin 0 tree := by
      intro node hnode opening hfound segment hsegment
      obtain ⟨htag, hbody⟩ := hopening node hnode opening hfound
      have habsent : Backtick.mark ∉ opening.body.tail := fun hmem =>
        hmark _ htag (hbody.subset (List.mem_of_mem_tail hmem))
      rw [Backtick.segments_of_not_mem_tail habsent] at hsegment
      exact absurd hsegment List.not_mem_nil
    have hfits : Node.FitsIn limit tree := ⟨0, hsegments, hlevels⟩
    exact render_ne_depthLimit_of_fitsIn hincludes hfits
  · intro node hnode opening hfound segment hsegment inner hmem expression hexpression evaluate
    have hsegment := hinner node hnode opening hfound segment hsegment
    have habsent := (Node.nesting_of_isInner hsegment).2 inner hmem expression hexpression
    exact Backtick.expand_of_not_mem_tail habsent evaluate

theorem render_ne_depthLimit_initial :
    let marked := "{{items}}\x7b\x7b.|\x60f\x60\x7d\x7d,{{/items}}"
    let plain := "{{items}}{{.}},{{/items}}"
    let context := Value.map [("items", .array [.string "ab", .string "cd"])]
    let engine := (initial : Engine Empty Unit).setGlobal "f" (.string "reverse")
    let outcome := fun depth template =>
      ((engine.withLimits depth 100).render () template context).1
    (∀ exceeded, outcome 3 marked ≠ .error (.depthLimit exceeded)) ∧
      (∀ exceeded, outcome 2 plain ≠ .error (.depthLimit exceeded)) ∧
      (outcome 3 marked).toOption = some "ba,dc," ∧ (outcome 2 plain).toOption = some "ab,cd," ∧
      (outcome 2 marked).toOption = none ∧ (outcome 1 plain).toOption = none := by
  intro marked plain context engine outcome
  obtain ⟨hmarked, -, -⟩ := @render_ne_depthLimit _ _ _ (engine.withLimits 3 100) rfl marked
  obtain ⟨-, hplain, -⟩ := @render_ne_depthLimit _ _ _ (engine.withLimits 2 100) rfl plain
  exact ⟨hmarked (by decide +kernel) () context,
    hplain (by decide +kernel) (by decide +kernel) () context, by decide +kernel,
    by decide +kernel, by decide +kernel, by decide +kernel⟩

end Engine

end BraceTemplate
