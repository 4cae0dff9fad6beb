import BraceTemplate.Proofs.Template.Scan
import BraceTemplate.Proofs.Template.Tree

/-!
# Walks of trees

A walk of a tree passes what its nodes stand for, in order.  At the end of a
block it passes a closer, which the tree does not keep: any closer of the token
of the block.  The tree of a text can be walked so that all of the text is
passed, and with it the tags of its scan, each once and where it stands.
-/

namespace BraceTemplate

inductive Piece where
  | literal (t : Text)
  | tag (written : Tag)
  deriving DecidableEq, Repr

namespace Piece

def text : Piece → Text
  | literal t => t
  | tag written => written.text

def tag? : Piece → Option Tag
  | literal _ => none
  | tag written => some written

/-- The byte offsets in UTF-8 at which the tags start and end, behind `start` bytes. -/
def offsetsFrom (start : Nat) : List Piece → List (Nat × Nat)
  | [] => []
  | literal t :: rest => offsetsFrom (start + t.utf8Size) rest
  | tag written :: rest =>
      let stop := start + written.text.utf8Size
      (start, stop) :: offsetsFrom stop rest

def ofLiteral (t : Text) : List Piece := if t.isEmpty then [] else [literal t]

section Literal

variable (t : Text) (pieces : List Piece)

@[simp] theorem flatMap_text_ofLiteral : (ofLiteral t).flatMap text = t := by
  unfold ofLiteral
  split
  · rename_i hempty
    exact (List.isEmpty_iff.mp hempty).symm
  · simp [text]

@[simp] theorem filterMap_tag?_ofLiteral : (ofLiteral t).filterMap tag? = [] := by
  unfold ofLiteral
  split <;> rfl

@[simp] theorem offsetsFrom_ofLiteral_append (start : Nat) :
    offsetsFrom start (ofLiteral t ++ pieces) = offsetsFrom (start + t.utf8Size) pieces := by
  unfold ofLiteral
  split
  · rename_i hempty
    rw [List.isEmpty_iff.mp hempty]
    rfl
  · rfl

end Literal

end Piece

inductive Walk : List Node → List Piece → Prop
  | nil : Walk [] []
  | literal (t : Text) {rest : List Node} {pieces : List Piece} (after : Walk rest pieces) :
      Walk (.literal t :: rest) (.literal t :: pieces)
  | separator (tag : Tag) {rest : List Node} {pieces : List Piece} (after : Walk rest pieces) :
      Walk (.separator tag :: rest) (.tag tag :: pieces)
  | directive (opening : Opening) {rest : List Node} {pieces : List Piece}
      (after : Walk rest pieces) : Walk (.directive opening :: rest) (.tag opening.tag :: pieces)
  | block (opening : Opening) {token : Text} {closer : Tag} (closes : closer.kind = .closer token)
      (index : Option Nat) {children rest : List Node} {inner pieces : List Piece}
      (inside : Walk children inner) (after : Walk rest pieces) :
      Walk (.block opening token children index :: rest)
        (.tag opening.tag :: (inner ++ .tag closer :: pieces))

namespace Walk

variable {nodes : List Node} {pieces : List Piece}

theorem ofLiteral_append (t : Text) (h : Walk nodes pieces) :
    Walk (Node.ofLiteral t ++ nodes) (Piece.ofLiteral t ++ pieces) := by
  unfold Node.ofLiteral Piece.ofLiteral
  split
  · exact h
  · exact .literal t h

theorem tag_cons (tag : Tag) (h : Walk nodes pieces) :
    Walk (tag.node :: nodes) (.tag tag :: pieces) := by
  unfold Tag.node
  cases tag.kind with
  | separator => exact .separator tag h
  | closer name => exact .directive ⟨tag, tag.inner, false⟩ h
  | expression body selfClosing => exact .directive ⟨tag, body, selfClosing⟩ h

end Walk

/-! ## The pieces of a scan -/

def piecesOfTags (tagged : List (Text × Tag)) (tail : Text) : List Piece :=
  tagged.flatMap (fun (before, tag) => Piece.ofLiteral before ++ [.tag tag]) ++
    Piece.ofLiteral tail

theorem piecesOfTags_cons (before : Text) (tag : Tag) (rest : List (Text × Tag)) (tail : Text) :
    piecesOfTags ((before, tag) :: rest) tail =
      Piece.ofLiteral before ++ .tag tag :: piecesOfTags rest tail := by
  simp [piecesOfTags]

theorem piecesOfTags_append_cons (inside after : List (Text × Tag)) (last tail : Text)
    (closer : Tag) :
    piecesOfTags (inside ++ (last, closer) :: after) tail =
      piecesOfTags inside last ++ .tag closer :: piecesOfTags after tail := by
  simp [piecesOfTags]

theorem walk_treeOfTags (tagged : List (Text × Tag)) (tail : Text) :
    Walk (treeOfTags tagged tail) (piecesOfTags tagged tail) := by
  induction tagged, tail using treeOfTags_induction with
  | nil tail =>
      have hwalk := Walk.nil.ofLiteral_append tail
      simpa [piecesOfTags] using hwalk
  | plain before tag rest tail hcloser ih =>
      rw [treeOfTags_cons_plain hcloser, piecesOfTags_cons]
      exact (ih.tag_cons tag).ofLiteral_append before
  | block before tag inside last closer after tail hcloser ihInside ihAfter =>
      obtain ⟨token, htoken, hfound⟩ := Option.bind_eq_some_iff.mp hcloser
      obtain ⟨-, rfl⟩ := Tag.openingToken?_eq_some_iff.mp htoken
      -- the tag at the place that was found is the one the tree drops
      have hcloses : closer.closes (blockToken tag.inner) = true := by
        obtain ⟨found, hget, hcloses⟩ := closes_of_findCloser? hfound
        simp only [List.map_append, List.map_cons, List.getElem?_append_right,
          List.length_map, Nat.le_refl, Nat.sub_self, List.getElem?_cons_zero,
          Option.some.injEq] at hget
        rw [hget]
        exact hcloses
      rw [treeOfTags_cons_block hcloser, piecesOfTags_cons, piecesOfTags_append_cons]
      apply Walk.ofLiteral_append
      exact .block ⟨tag, tag.inner, false⟩ (eq_of_beq hcloses) _ ihInside ihAfter

namespace Scan

def pieces (scan : Scan) : List Piece := piecesOfTags scan.tagged scan.rest

theorem flatMap_text_pieces (scan : Scan) : scan.pieces.flatMap Piece.text = scan.text := by
  simp [pieces, piecesOfTags, text, List.flatMap_assoc, Piece.text]

theorem filterMap_tag?_pieces (scan : Scan) : scan.pieces.filterMap Piece.tag? = scan.tags := by
  obtain ⟨tagged, rest⟩ := scan
  induction tagged with
  | nil => simp [pieces, piecesOfTags, tags]
  | cons entry tagged ih =>
      obtain ⟨before, tag⟩ := entry
      simp only [pieces, tags] at ih ⊢
      rw [piecesOfTags_cons, List.filterMap_append, List.filterMap_cons, ih]
      simp [Piece.tag?]

theorem offsetsFrom_pieces (scan : Scan) : Piece.offsetsFrom 0 scan.pieces = scan.offsets := by
  obtain ⟨tagged, rest⟩ := scan
  -- behind `start` bytes, with the offsets found so far in reverse
  have general : ∀ (start : Nat) (found : List (Nat × Nat)),
      (tagged.foldl
        (fun (state : Nat × List (Nat × Nat)) entry =>
          let start := state.1 + entry.1.utf8Size
          let stop := start + entry.2.text.utf8Size
          (stop, (start, stop) :: state.2))
        (start, found)).2.reverse =
          found.reverse ++ Piece.offsetsFrom start (piecesOfTags tagged rest) := by
    induction tagged with
    | nil =>
        intro start found
        have hrest := Piece.offsetsFrom_ofLiteral_append rest [] start
        rw [List.append_nil] at hrest
        simp [piecesOfTags, hrest, Piece.offsetsFrom]
    | cons entry tagged ih =>
        intro start found
        obtain ⟨before, tag⟩ := entry
        rw [List.foldl_cons, ih, piecesOfTags_cons, Piece.offsetsFrom_ofLiteral_append]
        simp [Piece.offsetsFrom]
  exact (general 0 []).symm

end Scan

/-- Parsing neither loses nor repeats anything. -/
theorem exists_walk_parseTemplate (t : Text) :
    ∃ pieces, Walk (parseTemplate t) pieces ∧
      pieces.flatMap Piece.text = t ∧
      pieces.filterMap Piece.tag? = (Scan.ofText t).tags ∧
      Piece.offsetsFrom 0 pieces = (Scan.ofText t).offsets := by
  refine ⟨(Scan.ofText t).pieces, ?_, ?_, ?_, ?_⟩
  · rw [parseTemplate_eq_tree]
    exact walk_treeOfTags _ _
  · rw [Scan.flatMap_text_pieces, Scan.text_ofText]
  · exact Scan.filterMap_tag?_pieces _
  · exact Scan.offsetsFrom_pieces _

end BraceTemplate
