import BraceTemplate.Proofs.Template.Scan
import BraceTemplate.Proofs.Template.Tree

/-!
# Trees of concatenations

Where no tag of a second text closes what a first text opens, the tree of both
is the tree of the first followed by the tree of the second.  A text between an
opener and its closer becomes the children of one block, with the tree that it
has on its own, if it is balanced in the token of the block.
-/

namespace BraceTemplate

/-- No tag of `second` closes what a tag of `first` opens. -/
def Apart (first second : List Tag) : Prop :=
  ∀ opener ∈ first, ∀ closer ∈ second, ∀ token,
    opener.opens token = true → closer.closes token = false

instance (first second : List Tag) : Decidable (Apart first second) :=
  decidable_of_iff
    (∀ opener ∈ first, ∀ token ∈ opener.openingToken?, ∀ closer ∈ second,
      closer.closes token = false) <| by
    simp only [Apart, Tag.opens_iff, Option.mem_def]
    exact ⟨fun h opener hopener closer hcloser token htoken =>
        h opener hopener token htoken closer hcloser,
      fun h opener hopener token htoken closer hcloser =>
        h opener hopener closer hcloser token htoken⟩

theorem apart_of_isExpression {tag : Tag} {body : Text} {selfClosing : Bool}
    (h : tag.kind = .expression body selfClosing) (tags : List Tag) : Apart tags [tag] := by
  intro opener _ closer hcloser token _
  rw [List.mem_singleton.mp hcloser, Tag.closes, h]
  rfl

namespace Tag

theorem closerIn?_append {tag : Tag} {more : List Tag} (h : Apart [tag] more)
    (rest : List Tag) : tag.closerIn? (rest ++ more) = tag.closerIn? rest := by
  unfold closerIn?
  cases htoken : tag.openingToken? with
  | none => rfl
  | some token =>
      apply findCloser?_append_of_not_closes
      intro closer hmem
      exact h tag (List.mem_singleton_self tag) closer hmem token (opens_iff.mpr htoken)

def closerOf (token : Text) : Tag := ⟨'/' :: token⟩

/-- Scanned alone, the tag as it is written is this tag and nothing else. -/
def Standalone (tag : Tag) : Prop := Scan.ofText tag.text = ⟨[([], tag)], []⟩

instance (tag : Tag) : Decidable tag.Standalone :=
  inferInstanceAs (Decidable (Scan.ofText tag.text = ⟨[([], tag)], []⟩))

namespace Standalone

variable {tag : Tag} (h : tag.Standalone)

include h

theorem isSealed : (Scan.ofText tag.text).Sealed := by
  apply Scan.Sealed.of_rest_eq_nil
  rw [h]

theorem tags_eq : (Scan.ofText tag.text).tags = [tag] := by
  rw [h]
  rfl

theorem ofText_append (t : Text) :
    Scan.ofText (tag.text ++ t) =
      ⟨([], tag) :: (Scan.ofText t).tagged, (Scan.ofText t).rest⟩ := by
  rw [Scan.ofText_append h.isSealed, h, Scan.append_def, Scan.prepend_nil]
  rfl

theorem tags_append (t : Text) :
    (Scan.ofText (tag.text ++ t)).tags = tag :: (Scan.ofText t).tags := by
  rw [h.ofText_append]
  rfl

end Standalone

theorem standalone_iff {t : Text} :
    (⟨t⟩ : Tag).Standalone ↔
      t ≠ [] ∧ ¬ closing <:+: t.tail ∧ t.tail.getLast? ≠ some '}' := by
  have hscan : (⟨t⟩ : Tag).Standalone ↔ next? (text ⟨t⟩) = some ([], ⟨t⟩, []) := by
    unfold Standalone
    constructor
    · intro h
      cases hnext : next? (text ⟨t⟩) with
      | none =>
          rw [Scan.ofText_of_next?_none hnext] at h
          simp at h
      | some found =>
          obtain ⟨before, tag, after⟩ := found
          have hafter := Scan.text_ofText after
          rw [Scan.ofText_of_next?_some hnext] at h
          simp only [Scan.mk.injEq, List.cons.injEq, Prod.mk.injEq] at h
          obtain ⟨⟨⟨rfl, rfl⟩, htagged⟩, hrest⟩ := h
          rw [Scan.text, htagged, hrest] at hafter
          rw [← hafter]
          rfl
    · intro h
      rw [Scan.ofText_of_next?_some h, Scan.ofText_nil]
  have hopening : Text.cut? opening (text ⟨t⟩) = some ([], t ++ closing) := by
    simp [text, opening, Text.cut?_cons]
  rw [hscan, next?, hopening]
  cases t with
  | nil => simp [closing, Text.cut?, Text.cutFrom]
  | cons first more =>
      rw [closing, List.tail_cons, ← Text.cut?_append_doubled_iff, List.cons_append]
      simp only
      cases Text.cut? ['}', '}'] (more ++ ['}', '}']) <;> simp [Prod.ext_iff]

end Tag

/-! ## Trees side by side -/

theorem treeOfTags_append (tagged more : List (Text × Tag))
    (h : Apart (tagged.map Prod.snd) (more.map Prod.snd)) (tail : Text) :
    treeOfTags (tagged ++ more) tail = treeOfTags tagged [] ++ treeOfTags more tail := by
  induction tagged, tail using treeOfTags_induction with
  | nil tail => simp [Node.ofLiteral]
  | plain before tag rest tail hcloser ih =>
      have htag : Apart [tag] (more.map Prod.snd) := by
        intro opener hopener
        exact h opener (by simp_all)
      have hlong := Tag.closerIn?_append htag (rest.map Prod.snd)
      rw [hcloser, ← List.map_append] at hlong
      rw [List.cons_append, treeOfTags_cons_plain hlong, treeOfTags_cons_plain hcloser,
        ih (fun opener hopener => h opener (List.mem_cons_of_mem _ hopener))]
      simp
  | block before tag inside last closer after tail hcloser _ ih =>
      have htag : Apart [tag] (more.map Prod.snd) := by
        intro opener hopener
        exact h opener (by simp_all)
      have hlong := Tag.closerIn?_append htag ((inside ++ (last, closer) :: after).map Prod.snd)
      rw [hcloser, ← List.map_append, List.append_assoc, List.cons_append] at hlong
      rw [List.cons_append, List.append_assoc, List.cons_append,
        treeOfTags_cons_block hlong, treeOfTags_cons_block hcloser,
        ih (fun opener hopener => h opener (by simp_all))]
      simp

theorem treeOfTags_eq_append_ofLiteral (tagged : List (Text × Tag)) (tail : Text) :
    treeOfTags tagged tail = treeOfTags tagged [] ++ Node.ofLiteral tail := by
  have h := treeOfTags_append tagged [] (by simp [Apart]) tail
  simpa using h

theorem tree_prepend (scan : Scan) :
    ∃ t nodes, scan.tree = Node.ofLiteral t ++ nodes ∧
      ∀ before, (scan.prepend before).tree = Node.ofLiteral (before ++ t) ++ nodes := by
  obtain ⟨tagged, rest⟩ := scan
  cases tagged with
  | nil =>
      refine ⟨rest, [], ?_, ?_⟩
      · simp [Scan.tree]
      · intro before
        simp [Scan.tree, Scan.prepend]
  | cons entry more =>
      obtain ⟨t, tag⟩ := entry
      refine ⟨t, _, by rw [Scan.tree, treeOfTags], ?_⟩
      intro before
      rw [Scan.tree, Scan.prepend_cons, treeOfTags]

theorem parseTemplate_append {first second : Text} (hsealed : (Scan.ofText first).Sealed)
    (hapart : Apart (Scan.ofText first).tags (Scan.ofText second).tags) :
    parseTemplate (first ++ second) =
      treeOfTags (Scan.ofText first).tagged [] ++
        ((Scan.ofText second).prepend (Scan.ofText first).rest).tree := by
  rw [parseTemplate_eq_tree, Scan.ofText_append hsealed, Scan.append_def, Scan.tree]
  apply treeOfTags_append
  rw [← Scan.tags_prepend (Scan.ofText first).rest (Scan.ofText second)] at hapart
  exact hapart

@[simp] theorem parseTemplate_nil : parseTemplate [] = [] := by
  rw [parseTemplate_eq_tree, Scan.ofText_nil, Scan.tree, treeOfTags_nil]
  rfl

/-! ## A tag and what follows it -/

theorem parseTemplate_tag {tag : Tag} (hstandalone : tag.Standalone) {after : Text}
    (hcloser : tag.closerIn? (Scan.ofText after).tags = none) :
    parseTemplate (tag.text ++ after) = tag.node :: parseTemplate after := by
  rw [parseTemplate_eq_tree, hstandalone.ofText_append, Scan.tree,
    treeOfTags_cons_plain hcloser, parseTemplate_eq_tree after]
  rfl

theorem Tag.Standalone.parseTemplate_eq {tag : Tag} (h : tag.Standalone) :
    parseTemplate tag.text = [tag.node] := by
  have htree : parseTemplate (tag.text ++ []) = _ := parseTemplate_tag h (by simp [Scan.tags])
  rwa [List.append_nil, parseTemplate_nil] at htree

theorem parseTemplate_append_tag {first second : Text} {tag : Tag}
    (hsealed : (Scan.ofText first).Sealed) (hstandalone : tag.Standalone)
    (hplain : tag.openingToken? = none)
    (hapart : Apart (Scan.ofText first).tags (tag :: (Scan.ofText second).tags)) :
    parseTemplate (first ++ tag.text ++ second) =
      parseTemplate first ++ tag.node :: parseTemplate second := by
  have hscan := hstandalone.ofText_append second
  have hcloser : tag.closerIn? ((Scan.ofText second).tagged.map Prod.snd) = none := by
    simp [Tag.closerIn?, hplain]
  rw [List.append_assoc, parseTemplate_append hsealed (by rw [hscan]; exact hapart), hscan,
    parseTemplate_eq_tree first, parseTemplate_eq_tree second]
  unfold Scan.tree
  rw [Scan.prepend_cons, List.append_nil, treeOfTags_cons_plain hcloser,
    treeOfTags_eq_append_ofLiteral (Scan.ofText first).tagged (Scan.ofText first).rest,
    List.append_assoc]

/-! ## Blocks -/

theorem ofText_block {opener closer : Tag} (hopener : opener.Standalone)
    (hcloser : closer.Standalone) {body : Text} (hsealed : (Scan.ofText body).Sealed)
    (after : Text) :
    Scan.ofText (opener.text ++ (body ++ (closer.text ++ after))) =
      ⟨([], opener) :: ((Scan.ofText body).tagged ++
          ((Scan.ofText body).rest, closer) :: (Scan.ofText after).tagged),
        (Scan.ofText after).rest⟩ := by
  rw [hopener.ofText_append, Scan.ofText_append hsealed, hcloser.ofText_append,
    Scan.append_def, Scan.prepend_cons, List.append_nil]

theorem tags_block {opener closer : Tag} (hopener : opener.Standalone)
    (hcloser : closer.Standalone) {body : Text} (hsealed : (Scan.ofText body).Sealed)
    (after : Text) :
    (Scan.ofText (opener.text ++ (body ++ (closer.text ++ after)))).tags =
      opener :: ((Scan.ofText body).tags ++ closer :: (Scan.ofText after).tags) := by
  rw [ofText_block hopener hcloser hsealed]
  simp [Scan.tags]

theorem parseTemplate_block {opener closer : Tag} {body token : Text}
    (hopener : opener.Standalone) (hcloser : closer.Standalone)
    (htoken : opener.openingToken? = some token) (hcloses : closer.closes token = true)
    (hsealed : (Scan.ofText body).Sealed)
    (hbalanced : Balanced token (Scan.ofText body).tags) (after : Text) :
    parseTemplate (opener.text ++ (body ++ (closer.text ++ after))) =
      Node.ofBlock opener (parseTemplate body) :: parseTemplate after := by
  -- the body is balanced, so that the first closer behind it is that of the opener
  have hfound : opener.closerIn? (((Scan.ofText body).tagged ++
      ((Scan.ofText body).rest, closer) :: (Scan.ofText after).tagged).map Prod.snd) =
        some (Scan.ofText body).tagged.length := by
    rw [Tag.closerIn?, htoken, Option.bind_some, List.map_append, List.map_cons,
      ← Scan.tags, findCloser?_of_balanced hbalanced hcloses, Scan.tags, List.length_map]
  rw [parseTemplate_eq_tree, ofText_block hopener hcloser hsealed, Scan.tree,
    treeOfTags_cons_block hfound, parseTemplate_eq_tree body, parseTemplate_eq_tree after]
  rfl

end BraceTemplate
