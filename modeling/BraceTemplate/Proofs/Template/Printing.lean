import BraceTemplate.Proofs.Template.Concatenation

/-!
# Printing trees

A tree is printed node by node; a block closes with its token.  Parsing what is
printed gives the tree back, if every tag of it scans as the tag it stands for
and if blocks, openers without a block and closers without an opener never share
a token.
-/

namespace BraceTemplate

namespace Node

mutual

def text : Node → Text
  | .literal t => t
  | .separator tag => tag.text
  | .directive opening => opening.tag.text
  | .block opening token children _ =>
      opening.tag.text ++ (textOfList children ++ (Tag.closerOf token).text)

def textOfList : List Node → Text
  | [] => []
  | node :: rest => text node ++ textOfList rest

end

mutual

def all : Node → List Node
  | .block opening token children index =>
      .block opening token children index :: allOfList children
  | node => [node]

def allOfList : List Node → List Node
  | [] => []
  | node :: rest => all node ++ allOfList rest

end

theorem mem_allOfList_self (node : Node) (rest : List Node) :
    node ∈ allOfList (node :: rest) := by
  rw [allOfList]
  apply List.mem_append_left
  cases node <;> simp [all]

theorem allOfList_subset_cons (node : Node) (rest : List Node) :
    allOfList rest ⊆ allOfList (node :: rest) := by
  rw [allOfList]
  exact List.subset_append_right _ _

theorem allOfList_subset_block (opening : Opening) (token : Text) (children : List Node)
    (index : Option Nat) (rest : List Node) :
    allOfList children ⊆ allOfList (.block opening token children index :: rest) := by
  intro node hnode
  rw [allOfList, all]
  exact List.mem_append_left _ (List.mem_cons_of_mem _ hnode)

theorem allOfList_eq_flatMap (nodes : List Node) : allOfList nodes = nodes.flatMap all := by
  induction nodes with
  | nil => rfl
  | cons node rest ih => rw [allOfList, ih, List.flatMap_cons]

theorem allOfList_append (first second : List Node) :
    allOfList (first ++ second) = allOfList first ++ allOfList second := by
  simp only [allOfList_eq_flatMap, List.flatMap_append]

def isLiteral : Node → Bool
  | .literal _ => true
  | _ => false

def blockToken? : Node → Option Text
  | .block _ token _ _ => some token
  | _ => none

def openToken? : Node → Option Text
  | .directive opening => opening.tag.openingToken?
  | _ => none

def closerName? : Node → Option Text
  | .directive opening =>
      match opening.tag.kind with
      | .closer name => some name
      | _ => none
  | _ => none

end Node

/--
Trees of which every part can be read back from how it is written: literals are
neither empty nor adjacent and hold no opening of a tag, and every tag scans
alone as what its node takes it for.
-/
inductive Printable : List Node → Prop
  | nil : Printable []
  | literal {t : Text} {rest : List Node} (notEmpty : t ≠ [])
      (noOpening : ¬ Tag.opening <:+: t) (noBrace : t.getLast? ≠ some '{')
      (notAdjacent : ∀ node ∈ rest.head?, node.isLiteral = false)
      (restPrintable : Printable rest) : Printable (.literal t :: rest)
  | separator {tag : Tag} {rest : List Node} (standalone : tag.Standalone)
      (kind : tag.kind = .separator) (restPrintable : Printable rest) :
      Printable (.separator tag :: rest)
  | directive {opening : Opening} {rest : List Node} (standalone : opening.tag.Standalone)
      (kind : opening.tag.kind = .expression opening.body opening.selfClosing)
      (restPrintable : Printable rest) : Printable (.directive opening :: rest)
  | closer {opening : Opening} {name : Text} {rest : List Node}
      (standalone : opening.tag.Standalone) (kind : opening.tag.kind = .closer name)
      (body : opening.body = opening.tag.inner) (selfClosing : opening.selfClosing = false)
      (restPrintable : Printable rest) : Printable (.directive opening :: rest)
  | block {opening : Opening} {token : Text} {children : List Node} {index : Option Nat}
      {rest : List Node} (standalone : opening.tag.Standalone)
      (kind : opening.tag.kind = .expression opening.body opening.selfClosing)
      (selfClosing : opening.selfClosing = false) (tokenEq : token = blockToken opening.body)
      (closerStandalone : (Tag.closerOf token).Standalone)
      (closerKind : (Tag.closerOf token).kind = .closer token)
      (indexEq : index =
        if isConditional opening.body then children.findIdx? Node.isSeparator else none)
      (childrenPrintable : Printable children) (restPrintable : Printable rest) :
      Printable (.block opening token children index :: rest)

/-- Blocks, openers without a block and closers without an opener share no token. -/
structure TokensApart (nodes : List Node) : Prop where
  opened : ∀ node ∈ Node.allOfList nodes, ∀ token ∈ node.openToken?,
    ∀ other ∈ Node.allOfList nodes,
      other.blockToken? ≠ some token ∧ other.closerName? ≠ some token
  closed : ∀ node ∈ Node.allOfList nodes, ∀ name ∈ node.closerName?,
    ∀ other ∈ Node.allOfList nodes, other.blockToken? ≠ some name

instance (nodes : List Node) : Decidable (TokensApart nodes) :=
  decidable_of_iff
    ((∀ node ∈ Node.allOfList nodes, ∀ token ∈ node.openToken?,
        ∀ other ∈ Node.allOfList nodes,
          other.blockToken? ≠ some token ∧ other.closerName? ≠ some token) ∧
      ∀ node ∈ Node.allOfList nodes, ∀ name ∈ node.closerName?,
        ∀ other ∈ Node.allOfList nodes, other.blockToken? ≠ some name)
    ⟨fun h => ⟨h.1, h.2⟩, fun h => ⟨h.opened, h.closed⟩⟩

theorem TokensApart.mono {nodes part : List Node} (h : TokensApart nodes)
    (hpart : Node.allOfList part ⊆ Node.allOfList nodes) : TokensApart part := by
  constructor
  · intro node hnode token htoken other hother
    exact h.opened node (hpart hnode) token htoken other (hpart hother)
  · intro node hnode name hname other hother
    exact h.closed node (hpart hnode) name hname other (hpart hother)

namespace Printable

theorem isSealed {nodes : List Node} (h : Printable nodes) :
    (Scan.ofText (Node.textOfList nodes)).Sealed := by
  induction h with
  | nil => exact .of_rest_eq_nil (by rw [Node.textOfList, Scan.ofText_nil])
  | literal _ noOpening noBrace _ _ ih =>
      rw [Node.textOfList, Node.text, Scan.ofText_literal_append noOpening noBrace]
      exact ih.prepend noOpening noBrace
  | separator standalone _ _ ih =>
      rw [Node.textOfList, Node.text, standalone.ofText_append]
      exact ⟨ih.noOpening, ih.noBrace⟩
  | directive standalone _ _ ih =>
      rw [Node.textOfList, Node.text, standalone.ofText_append]
      exact ⟨ih.noOpening, ih.noBrace⟩
  | closer standalone _ _ _ _ ih =>
      rw [Node.textOfList, Node.text, standalone.ofText_append]
      exact ⟨ih.noOpening, ih.noBrace⟩
  | block standalone _ _ _ closerStandalone _ _ _ _ ihChildren ihRest =>
      rw [Node.textOfList, Node.text, List.append_assoc, List.append_assoc,
        ofText_block standalone closerStandalone ihChildren]
      exact ⟨ihRest.noOpening, ihRest.noBrace⟩

theorem balanced {nodes : List Node} (h : Printable nodes) {token : Text}
    (honly : ∀ node ∈ Node.allOfList nodes,
      node.openToken? ≠ some token ∧ node.closerName? ≠ some token) :
    Balanced token (Scan.ofText (Node.textOfList nodes)).tags := by
  induction h with
  | nil =>
      rw [Node.textOfList, Scan.ofText_nil]
      exact .nil
  | literal _ noOpening noBrace _ _ ih =>
      rw [Node.textOfList, Node.text, Scan.ofText_literal_append noOpening noBrace,
        Scan.tags_prepend]
      exact ih fun node hnode => honly node (Node.allOfList_subset_cons _ _ hnode)
  | separator standalone kind _ ih =>
      rw [Node.textOfList, Node.text, standalone.tags_append]
      apply Balanced.cons_of_neither
      · simp [Tag.closes, kind]
      · simp [Tag.opens, Tag.openingToken?, kind]
      · exact ih fun node hnode => honly node (Node.allOfList_subset_cons _ _ hnode)
  | @directive opening rest standalone kind _ ih =>
      have hopening := honly (.directive opening) (Node.mem_allOfList_self _ _)
      rw [Node.textOfList, Node.text, standalone.tags_append]
      apply Balanced.cons_of_neither
      · simp [Tag.closes, kind]
      · simpa [Tag.opens, Node.openToken?] using hopening.1
      · exact ih fun node hnode => honly node (Node.allOfList_subset_cons _ _ hnode)
  | @closer opening name rest standalone kind _ _ _ ih =>
      have hopening := honly (.directive opening) (Node.mem_allOfList_self _ _)
      rw [Node.textOfList, Node.text, standalone.tags_append]
      apply Balanced.cons_of_neither
      · simpa [Tag.closes, kind, Node.closerName?] using hopening.2
      · simp [Tag.opens, Tag.openingToken?, kind]
      · exact ih fun node hnode => honly node (Node.allOfList_subset_cons _ _ hnode)
  | @block opening name children index rest standalone kind selfClosing tokenEq
      closerStandalone closerKind _ childrenPrintable _ ihChildren ihRest =>
      have hchildren := ihChildren fun node hnode =>
        honly node (Node.allOfList_subset_block _ _ _ _ _ hnode)
      have hrest := ihRest fun node hnode => honly node (Node.allOfList_subset_cons _ _ hnode)
      have htoken : opening.tag.openingToken? = some name := by
        simp [Tag.openingToken?, kind, selfClosing, tokenEq]
      rw [Node.textOfList, Node.text, List.append_assoc, List.append_assoc,
        tags_block standalone closerStandalone childrenPrintable.isSealed]
      -- a block of the token brings one opener and one closer, any other block none
      by_cases hname : name = token
      · subst hname
        have hcloses : (Tag.closerOf name).closes name = true := by
          simp [Tag.closes, closerKind]
        have hblock := Balanced.block (Tag.opens_iff.mpr htoken) hcloses hchildren
        simpa using hblock.append hrest
      · apply Balanced.cons_of_neither
        · simp [Tag.closes, kind]
        · simp [Tag.opens, htoken, hname]
        · apply hchildren.append
          apply Balanced.cons_of_neither
          · simp [Tag.closes, closerKind, hname]
          · simp [Tag.opens, Tag.openingToken?, closerKind]
          · exact hrest

theorem not_closes {nodes : List Node} (h : Printable nodes) {token : Text}
    (hnone : ∀ node ∈ Node.allOfList nodes,
      node.blockToken? ≠ some token ∧ node.closerName? ≠ some token) :
    ∀ tag ∈ (Scan.ofText (Node.textOfList nodes)).tags, tag.closes token = false := by
  induction h with
  | nil =>
      rw [Node.textOfList, Scan.ofText_nil]
      simp [Scan.tags]
  | literal _ noOpening noBrace _ _ ih =>
      rw [Node.textOfList, Node.text, Scan.ofText_literal_append noOpening noBrace,
        Scan.tags_prepend]
      exact ih fun node hnode => hnone node (Node.allOfList_subset_cons _ _ hnode)
  | separator standalone kind _ ih =>
      rw [Node.textOfList, Node.text, standalone.tags_append, List.forall_mem_cons]
      constructor
      · simp [Tag.closes, kind]
      · exact ih fun node hnode => hnone node (Node.allOfList_subset_cons _ _ hnode)
  | directive standalone kind _ ih =>
      rw [Node.textOfList, Node.text, standalone.tags_append, List.forall_mem_cons]
      constructor
      · simp [Tag.closes, kind]
      · exact ih fun node hnode => hnone node (Node.allOfList_subset_cons _ _ hnode)
  | @closer opening name rest standalone kind _ _ _ ih =>
      have hopening := hnone (.directive opening) (Node.mem_allOfList_self _ _)
      rw [Node.textOfList, Node.text, standalone.tags_append, List.forall_mem_cons]
      constructor
      · simpa [Tag.closes, kind, Node.closerName?] using hopening.2
      · exact ih fun node hnode => hnone node (Node.allOfList_subset_cons _ _ hnode)
  | @block opening name children index rest standalone kind _ _ closerStandalone
      closerKind _ childrenPrintable _ ihChildren ihRest =>
      have hblock := hnone (.block opening name children index) (Node.mem_allOfList_self _ _)
      rw [Node.textOfList, Node.text, List.append_assoc, List.append_assoc,
        tags_block standalone closerStandalone childrenPrintable.isSealed,
        List.forall_mem_cons, List.forall_mem_append, List.forall_mem_cons]
      refine ⟨?_, ?_, ?_, ?_⟩
      · simp [Tag.closes, kind]
      · exact ihChildren fun node hnode =>
          hnone node (Node.allOfList_subset_block _ _ _ _ _ hnode)
      · simpa [Tag.closes, closerKind, Node.blockToken?] using hblock.1
      · exact ihRest fun node hnode => hnone node (Node.allOfList_subset_cons _ _ hnode)

end Printable

private theorem parseTemplate_literal {t : Text} {rest : List Node} (notEmpty : t ≠ [])
    (noOpening : ¬ Tag.opening <:+: t) (noBrace : t.getLast? ≠ some '{')
    (notAdjacent : ∀ node ∈ rest.head?, node.isLiteral = false)
    (hrest : parseTemplate (Node.textOfList rest) = rest) :
    parseTemplate (t ++ Node.textOfList rest) = .literal t :: rest := by
  obtain ⟨start, nodes, htree, hprepend⟩ := tree_prepend (Scan.ofText (Node.textOfList rest))
  rw [parseTemplate_eq_tree, htree] at hrest
  -- the text behind the literal starts with a tag, or the literals were adjacent
  have hstart : start = [] := by
    cases start with
    | nil => rfl
    | cons c more =>
        have := notAdjacent (.literal (c :: more)) (by simp [← hrest, Node.ofLiteral])
        simp [Node.isLiteral] at this
  subst hstart
  rw [parseTemplate_eq_tree, Scan.ofText_literal_append noOpening noBrace, hprepend,
    List.append_nil, ← hrest]
  simp [Node.ofLiteral, notEmpty]

private theorem balanced_children {opening : Opening} {token : Text} {children rest : List Node}
    {index : Option Nat} (hapart : TokensApart (.block opening token children index :: rest))
    (hprintable : Printable children) :
    Balanced token (Scan.ofText (Node.textOfList children)).tags := by
  have hblock := Node.mem_allOfList_self (.block opening token children index) rest
  apply hprintable.balanced
  intro node hnode
  have hmem := Node.allOfList_subset_block opening token children index rest hnode
  constructor
  · intro hopen
    exact (hapart.opened node hmem token hopen _ hblock).1 rfl
  · intro hcloser
    exact hapart.closed node hmem token hcloser _ hblock rfl

private theorem ofBlock_eq_block {opening : Opening} {token : Text} {children : List Node}
    {index : Option Nat} (kind : opening.tag.kind = .expression opening.body opening.selfClosing)
    (selfClosing : opening.selfClosing = false) (tokenEq : token = blockToken opening.body)
    (indexEq : index =
      if isConditional opening.body then children.findIdx? Node.isSeparator else none) :
    Node.ofBlock opening.tag children = .block opening token children index := by
  obtain ⟨tag, body, closing⟩ := opening
  simp only at kind selfClosing tokenEq indexEq
  subst selfClosing
  obtain rfl := Tag.eq_inner_of_kind kind
  rw [Node.ofBlock, Node.separatorIndexOf, tokenEq, indexEq]

/-- Parsing inverts printing. -/
theorem parseTemplate_textOfList {nodes : List Node} (hprintable : Printable nodes)
    (hapart : TokensApart nodes) : parseTemplate (Node.textOfList nodes) = nodes := by
  induction hprintable with
  | nil => exact parseTemplate_nil
  | literal notEmpty noOpening noBrace notAdjacent _ ih =>
      have hrest := ih (hapart.mono (Node.allOfList_subset_cons _ _))
      rw [Node.textOfList, Node.text]
      exact parseTemplate_literal notEmpty noOpening noBrace notAdjacent hrest
  | @separator tag rest standalone kind _ ih =>
      have hrest := ih (hapart.mono (Node.allOfList_subset_cons _ _))
      have hcloser : tag.closerIn? (Scan.ofText (Node.textOfList rest)).tags = none := by
        simp [Tag.closerIn?, Tag.openingToken?, kind]
      rw [Node.textOfList, Node.text, parseTemplate_tag standalone hcloser, hrest]
      simp [Tag.node, kind]
  | @directive opening rest standalone kind restPrintable ih =>
      have hrest := ih (hapart.mono (Node.allOfList_subset_cons _ _))
      have hcloser : opening.tag.closerIn? (Scan.ofText (Node.textOfList rest)).tags = none := by
        unfold Tag.closerIn?
        cases htoken : opening.tag.openingToken? with
        | none => rfl
        | some token =>
            apply findCloser?_eq_none_iff.mpr
            apply restPrintable.not_closes
            intro node hnode
            exact hapart.opened (.directive opening) (Node.mem_allOfList_self _ _) token htoken
              node (Node.allOfList_subset_cons _ _ hnode)
      rw [Node.textOfList, Node.text, parseTemplate_tag standalone hcloser, hrest]
      simp [Tag.node, kind]
  | @closer opening name rest standalone kind body selfClosing _ ih =>
      have hrest := ih (hapart.mono (Node.allOfList_subset_cons _ _))
      have hcloser : opening.tag.closerIn? (Scan.ofText (Node.textOfList rest)).tags = none := by
        simp [Tag.closerIn?, Tag.openingToken?, kind]
      rw [Node.textOfList, Node.text, parseTemplate_tag standalone hcloser, hrest]
      obtain ⟨tag, inner, closing⟩ := opening
      simp only at kind body selfClosing
      simp [Tag.node, kind, body, selfClosing]
  | @block opening token children index rest standalone kind selfClosing tokenEq
      closerStandalone closerKind indexEq childrenPrintable _ ihChildren ihRest =>
      have hchildren := ihChildren (hapart.mono (Node.allOfList_subset_block _ _ _ _ _))
      have hrest := ihRest (hapart.mono (Node.allOfList_subset_cons _ _))
      have htoken : opening.tag.openingToken? = some token := by
        simp [Tag.openingToken?, kind, selfClosing, tokenEq]
      have hcloses : (Tag.closerOf token).closes token = true := by
        simp [Tag.closes, closerKind]
      rw [Node.textOfList, Node.text, List.append_assoc, List.append_assoc,
        parseTemplate_block standalone closerStandalone htoken hcloses
          childrenPrintable.isSealed (balanced_children hapart childrenPrintable),
        hchildren, hrest, ofBlock_eq_block kind selfClosing tokenEq indexEq]

theorem parseTemplate_textOfList_nested :
    let opening (t : String) : Opening := ⟨⟨t.toList⟩, t.toList, false⟩
    let separator : Node := .separator ⟨"else".toList⟩
    let items (children : List Node) : Node :=
      .block (opening "items|take>2") "items".toList children none
    let condition (expression : String) (children : List Node) : Node :=
      .block (opening expression) "if".toList children (some 1)
    parseTemplate ("a{{if x}}{{if y}}b{{else}}{{items|take>2}}{{items|take>2}}c{{/items}}" ++
        "{{else}}{{/items}}{{/if}}{{else}}{{z/}}{{/if}}{{name}}d{{/other}}").toList =
      [.literal "a".toList,
        condition "if x"
          [condition "if y"
            [.literal "b".toList, separator, items [items [.literal "c".toList], separator]],
            separator, .directive ⟨⟨"z/".toList⟩, "z".toList, true⟩],
        .directive (opening "name"), .literal "d".toList, .directive (opening "/other")] := by
  intro opening separator items condition
  have hitems : Printable [items [.literal "c".toList], separator] := by
    refine .block ?_ ?_ rfl ?_ ?_ ?_ rfl (.literal ?_ ?_ ?_ ?_ .nil) (.separator ?_ rfl .nil)
    all_goals decide +kernel
  have hinner : Printable [.literal "b".toList, separator,
      items [items [.literal "c".toList], separator]] := by
    refine .literal ?_ ?_ ?_ ?_ (.separator ?_ rfl (.block ?_ ?_ rfl ?_ ?_ ?_ rfl hitems .nil))
    all_goals decide +kernel
  have hrest : Printable [.directive (opening "name"), .literal "d".toList,
      .directive (opening "/other")] := by
    have hkind : (opening "/other").tag.kind = .closer "other".toList := by decide +kernel
    refine .directive ?_ ?_ (.literal ?_ ?_ ?_ ?_ (.closer ?_ hkind rfl rfl .nil))
    all_goals decide +kernel
  refine Eq.trans (congrArg parseTemplate ?_) (parseTemplate_textOfList
    (.literal ?_ ?_ ?_ ?_ (.block ?_ ?_ rfl ?_ ?_ ?_ ?_
      (.block ?_ ?_ rfl ?_ ?_ ?_ ?_ hinner (.separator ?_ rfl (.directive ?_ ?_ .nil))) hrest))
    ?_)
  all_goals decide +kernel

end BraceTemplate
