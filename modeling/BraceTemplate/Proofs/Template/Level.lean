import BraceTemplate.Proofs.Template.Printing
import BraceTemplate.Proofs.Template.Walk
import Mathlib.Data.List.Infix

/-!
# Levels of trees

A level is a list of nodes that stand side by side: the top of a tree, or what
a block holds.  Every level of a parsed text is a tree of its own, of the tags
between those of its block.  Literals are neither empty nor adjacent on it, an
opener that is left without a block is not closed behind it, and the branches of
a condition part at its first separator.
-/

namespace BraceTemplate

namespace Node

def children? : Node → Option (List Node)
  | .block _ _ children _ => some children
  | _ => none

def innerLevels (tree : List Node) : List (List Node) := (allOfList tree).filterMap children?

def levels (tree : List Node) : List (List Node) := tree :: innerLevels tree

theorem innerLevels_append (first second : List Node) :
    innerLevels (first ++ second) = innerLevels first ++ innerLevels second := by
  simp [innerLevels, allOfList_append]

@[simp] theorem innerLevels_ofLiteral (t : Text) : innerLevels (ofLiteral t) = [] := by
  unfold ofLiteral
  split <;> rfl

theorem innerLevels_ofBlock_cons (tag : Tag) (children rest : List Node) :
    innerLevels (ofBlock tag children :: rest) = levels children ++ innerLevels rest := by
  simp [innerLevels, levels, ofBlock, allOfList, all, children?]

end Node

theorem Tag.innerLevels_node_cons (tag : Tag) (rest : List Node) :
    Node.innerLevels (tag.node :: rest) = Node.innerLevels rest := by
  rw [← List.singleton_append, Node.innerLevels_append]
  unfold node
  split <;> rfl

theorem exists_eq_treeOfTags {tagged : List (Text × Tag)} {tail : Text} {level : List Node}
    (h : level ∈ Node.levels (treeOfTags tagged tail)) :
    ∃ part last, level = treeOfTags part last ∧
      piecesOfTags part last <:+: piecesOfTags tagged tail := by
  rcases List.mem_cons.mp h with rfl | hinner
  · exact ⟨tagged, tail, rfl, List.infix_rfl⟩
  · clear h
    induction tagged, tail using treeOfTags_induction with
    | nil tail => simp at hinner
    | plain before tag rest tail hcloser ih =>
        rw [treeOfTags_cons_plain hcloser, Node.innerLevels_append, Tag.innerLevels_node_cons]
          at hinner
        obtain ⟨part, last, hlevel, hpart⟩ := ih (by simpa using hinner)
        refine ⟨part, last, hlevel, hpart.trans ?_⟩
        rw [piecesOfTags_cons, List.append_cons]
        exact (List.suffix_append _ _).isInfix
    | block before tag inside last closer after tail hcloser ihInside ihAfter =>
        rw [treeOfTags_cons_block hcloser, Node.innerLevels_append,
          Node.innerLevels_ofBlock_cons, Node.innerLevels_ofLiteral, List.nil_append,
          List.mem_append, Node.levels, List.mem_cons] at hinner
        have hpieces : piecesOfTags ((before, tag) :: (inside ++ (last, closer) :: after)) tail =
            (Piece.ofLiteral before ++ [.tag tag]) ++ piecesOfTags inside last ++
              (.tag closer :: piecesOfTags after tail) := by
          simp [piecesOfTags_cons, piecesOfTags_append_cons]
        have hinside : piecesOfTags inside last <:+:
            piecesOfTags ((before, tag) :: (inside ++ (last, closer) :: after)) tail :=
          ⟨_, _, hpieces.symm⟩
        have hafter : piecesOfTags after tail <:+:
            piecesOfTags ((before, tag) :: (inside ++ (last, closer) :: after)) tail := by
          rw [hpieces]
          exact ((List.suffix_cons _ _).trans (List.suffix_append _ _)).isInfix
        rcases hinner with (rfl | hlevel) | hlevel
        · exact ⟨inside, last, rfl, hinside⟩
        · obtain ⟨part, final, hlevel, hpart⟩ := ihInside hlevel
          exact ⟨part, final, hlevel, hpart.trans hinside⟩
        · obtain ⟨part, final, hlevel, hpart⟩ := ihAfter hlevel
          exact ⟨part, final, hlevel, hpart.trans hafter⟩

/-! ## Branches -/

/--
The branches of a block: a condition is separated at the first separator, and
its second branch ends at the next.
-/
structure Separated (body : Text) (children : List Node) (index : Option Nat) : Prop where
  index_iff : ∀ position, index = some position ↔
    isConditional body = true ∧ (∃ tag, children[position]? = some (.separator tag)) ∧
      ∀ node ∈ children.take position, node.isSeparator = false
  branches : ∀ position, index = some position → ∃ tag rest,
    children = thenBranch children index ++
      .separator tag :: (elseBranch children index ++ rest) ∧
    (∀ node ∈ thenBranch children index, node.isSeparator = false) ∧
    (∀ node ∈ elseBranch children index, node.isSeparator = false) ∧
    ∀ node ∈ rest.head?, node.isSeparator = true

theorem Node.isSeparator_iff {node : Node} :
    node.isSeparator = true ↔ ∃ tag, node = .separator tag := by
  cases node <;> simp [isSeparator]

private theorem findIdx?_isSeparator_iff {children : List Node} {position : Nat} :
    children.findIdx? Node.isSeparator = some position ↔
      (∃ tag, children[position]? = some (.separator tag)) ∧
        ∀ node ∈ children.take position, node.isSeparator = false := by
  rw [List.findIdx?_eq_some_iff_getElem]
  constructor
  · rintro ⟨hlt, hseparator, hbefore⟩
    obtain ⟨tag, htag⟩ := Node.isSeparator_iff.mp hseparator
    refine ⟨⟨tag, by rw [List.getElem?_eq_getElem hlt, htag]⟩, fun node hnode => ?_⟩
    obtain ⟨index, hindex, rfl⟩ := List.mem_take_iff_getElem.mp hnode
    simpa using hbefore index (by omega)
  · rintro ⟨⟨tag, htag⟩, hbefore⟩
    obtain ⟨hlt, hget⟩ := List.getElem?_eq_some_iff.mp htag
    refine ⟨hlt, Node.isSeparator_iff.mpr ⟨tag, hget⟩, fun index hindex => ?_⟩
    simp [hbefore _ (List.mem_take_iff_getElem.mpr ⟨index, by omega, rfl⟩)]

theorem separated_separatorIndexOf (body : Text) (children : List Node) :
    Separated body children (Node.separatorIndexOf body children) := by
  have hindex : ∀ position, Node.separatorIndexOf body children = some position ↔
      isConditional body = true ∧ (∃ tag, children[position]? = some (.separator tag)) ∧
        ∀ node ∈ children.take position, node.isSeparator = false := by
    intro position
    rw [Node.separatorIndexOf, ← findIdx?_isSeparator_iff]
    cases isConditional body <;> simp
  refine ⟨hindex, fun position hposition => ?_⟩
  obtain ⟨-, ⟨tag, htag⟩, hbefore⟩ := (hindex position).mp hposition
  obtain ⟨hlt, hget⟩ := List.getElem?_eq_some_iff.mp htag
  rw [hposition]
  refine ⟨tag, (children.drop (position + 1)).dropWhile (!·.isSeparator), ?_, hbefore, ?_, ?_⟩
  · rw [thenBranch, elseBranch, List.takeWhile_append_dropWhile, ← hget,
      ← List.drop_eq_getElem_cons hlt, List.take_append_drop]
  · intro node hnode
    simpa using List.all_eq_true.mp List.all_takeWhile node hnode
  · intro node hnode
    have hhead := List.head?_dropWhile_not (!·.isSeparator) (children.drop (position + 1))
    rw [Option.mem_def.mp hnode] at hhead
    simpa using hhead

/-! ## What follows an opener -/

def Piece.kind? (piece : Piece) : Option TagKind := piece.tag?.map Tag.kind

theorem Walk.kinds_eq {nodes : List Node} {pieces others : List Piece} (h : Walk nodes pieces)
    (hothers : Walk nodes others) : pieces.map Piece.kind? = others.map Piece.kind? := by
  induction h generalizing others with
  | nil =>
      cases hothers
      rfl
  | literal t _ ih =>
      cases hothers with
      | literal _ hafter => simp [ih hafter]
  | separator tag _ ih =>
      cases hothers with
      | separator _ hafter => simp [ih hafter]
  | directive opening _ ih =>
      cases hothers with
      | directive _ hafter => simp [ih hafter]
  | block opening closes index _ _ ihInside ihAfter =>
      cases hothers with
      | block _ othersCloses _ hinside hafter =>
          simp [ihInside hinside, ihAfter hafter, Piece.kind?, Piece.tag?, closes, othersCloses]

theorem kind_of_mem_walk {tagged : List (Text × Tag)} {tail : Text} {pieces : List Piece}
    (h : Walk (treeOfTags tagged tail) pieces) {tag : Tag} (htag : .tag tag ∈ pieces) :
    ∃ other ∈ tagged.map Prod.snd, other.kind = tag.kind := by
  -- the tree keeps no closers, but every walk passes closers of the same tokens
  have hmem : some tag.kind ∈ (piecesOfTags tagged tail).map Piece.kind? := by
    rw [(walk_treeOfTags tagged tail).kinds_eq h]
    exact List.mem_map_of_mem (f := Piece.kind?) htag
  obtain ⟨piece, hpiece, hkind⟩ := List.mem_map.mp hmem
  obtain ⟨other, hother, hkind⟩ := Option.map_eq_some_iff.mp hkind
  refine ⟨other, ?_, hkind⟩
  have htags : (piecesOfTags tagged tail).filterMap Piece.tag? = tagged.map Prod.snd :=
    Scan.filterMap_tag?_pieces ⟨tagged, tail⟩
  rw [← htags]
  exact List.mem_filterMap.mpr ⟨piece, hpiece, hother⟩

/-! ## Maximal levels -/

/--
A node as it has to be before the nodes that follow it on its level: a literal
takes in all text up to the next tag, a directive has no closer to open a block
with, and a block is what its tags say.
-/
def Node.MaximalBefore (after : List Node) : Node → Prop
  | .literal t => t ≠ [] ∧ ∀ node ∈ after.head?, node.isLiteral = false
  | .separator _ => True
  | .directive opening =>
      ∀ body, opening.tag.kind = .expression body false →
        ∀ pieces, Walk after pieces →
          ∀ tag, .tag tag ∈ pieces → tag.kind ≠ .closer (blockToken body)
  | .block opening token children index =>
      opening.tag.kind = .expression opening.body false ∧ opening.selfClosing = false ∧
        token = blockToken opening.body ∧ Separated opening.body children index

def Maximal (level : List Node) : Prop :=
  ∀ node after, node :: after <:+ level → node.MaximalBefore after

theorem Maximal.nil : Maximal [] := by
  intro node after h
  simp at h

theorem Maximal.cons {node : Node} {rest : List Node} (hnode : node.MaximalBefore rest)
    (h : Maximal rest) : Maximal (node :: rest) := by
  intro other after hsuffix
  rcases List.suffix_cons_iff.mp hsuffix with heq | hrest
  · obtain ⟨rfl, rfl⟩ := List.cons.inj heq
    exact hnode
  · exact h other after hrest

theorem Maximal.ofLiteral_append {rest : List Node} (h : Maximal rest)
    (hrest : ∀ node ∈ rest.head?, node.isLiteral = false) (t : Text) :
    Maximal (Node.ofLiteral t ++ rest) := by
  unfold Node.ofLiteral
  split
  · exact h
  · rename_i hempty
    exact h.cons ⟨by simpa using hempty, hrest⟩

theorem Tag.maximalBefore_node {tag : Tag} {tagged : List (Text × Tag)}
    (hcloser : tag.closerIn? (tagged.map Prod.snd) = none) (tail : Text) :
    tag.node.MaximalBefore (treeOfTags tagged tail) := by
  have hunclosed : ∀ body, tag.kind = .expression body false →
      ∀ pieces, Walk (treeOfTags tagged tail) pieces →
        ∀ closer, .tag closer ∈ pieces → closer.kind ≠ .closer (blockToken body) := by
    intro body hkind pieces hwalk closer hpassed hcloses
    obtain ⟨other, hother, hsame⟩ := kind_of_mem_walk hwalk hpassed
    have hsearch : findCloser? (blockToken body) 1 (tagged.map Prod.snd) = none := by
      simpa [closerIn?, openingToken?, hkind] using hcloser
    have hnone := findCloser?_eq_none_iff.mp hsearch other hother
    simp [closes, hsame, hcloses] at hnone
  unfold node
  split
  · trivial
  · exact hunclosed
  · exact hunclosed

theorem maximal_treeOfTags (tagged : List (Text × Tag)) (tail : Text) :
    Maximal (treeOfTags tagged tail) := by
  induction tagged, tail using treeOfTags_induction with
  | nil tail =>
      rw [treeOfTags_nil, ← List.append_nil (Node.ofLiteral tail)]
      exact Maximal.nil.ofLiteral_append (by simp) tail
  | plain before tag rest tail hcloser ih =>
      rw [treeOfTags_cons_plain hcloser]
      refine (ih.cons (Tag.maximalBefore_node hcloser tail)).ofLiteral_append ?_ before
      rintro node ⟨⟩
      unfold Tag.node
      split <;> rfl
  | block before tag inside last closer after tail hcloser _ ih =>
      obtain ⟨token, htoken, -⟩ := Option.bind_eq_some_iff.mp hcloser
      have hkind := (Tag.openingToken?_eq_some_iff.mp htoken).1
      have hblock : (Node.ofBlock tag (treeOfTags inside last)).MaximalBefore
          (treeOfTags after tail) :=
        ⟨hkind, rfl, rfl, separated_separatorIndexOf _ _⟩
      rw [treeOfTags_cons_block hcloser]
      refine (ih.cons hblock).ofLiteral_append ?_ before
      rintro node ⟨⟩
      rfl

/--
A text is a walk of its tree, every level of which is maximal: whatever follows
a directive in the text, up to the end of its level, does not close it.
-/
theorem maximal_of_mem_levels (t : Text) :
    Walk (parseTemplate t) (Scan.ofText t).pieces ∧
      (Scan.ofText t).pieces.flatMap Piece.text = t ∧
      ∀ level ∈ Node.levels (parseTemplate t),
        (∃ pieces, Walk level pieces ∧ pieces <:+: (Scan.ofText t).pieces) ∧ Maximal level := by
  rw [parseTemplate_eq_tree, Scan.flatMap_text_pieces, Scan.text_ofText]
  refine ⟨walk_treeOfTags _ _, rfl, fun level hlevel => ?_⟩
  obtain ⟨part, last, rfl, hpart⟩ := exists_eq_treeOfTags hlevel
  exact ⟨⟨_, walk_treeOfTags part last, hpart⟩, maximal_treeOfTags part last⟩

theorem maximal_of_mem_levels_interleaved :
    let tree := parseTemplate
      "{{a}}x{{b}}{{/a}}{{b}}{{if c}}1{{else}}2{{else}}3{{/if}}{{/b}}".toList
    ∃ level ∈ Node.levels tree, Node.textOfList level = "x{{b}}".toList ∧ Maximal level := by
  intro tree
  have hsecond : (Node.levels tree)[1]?.map Node.textOfList = some "x{{b}}".toList := by
    decide +kernel
  obtain ⟨level, hlevel, htext⟩ := Option.map_eq_some_iff.mp hsecond
  have hmem := List.mem_of_getElem? hlevel
  exact ⟨level, hmem, htext, ((maximal_of_mem_levels _).2.2 level hmem).2⟩

end BraceTemplate
