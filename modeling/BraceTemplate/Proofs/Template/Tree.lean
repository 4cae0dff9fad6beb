import BraceTemplate.Proofs.Template.Extent
import BraceTemplate.Template.Node
import Mathlib.Data.List.Induction

/-!
# Trees without positions

`treeOfTags` builds the tree of a list of tags from these tags alone: the closer
of a block is looked for in all that is left.  `parseTemplate` gives the same
tree, since behind the last closer of a token there is nothing to be found.
-/

namespace BraceTemplate

namespace Tag

def node (tag : Tag) : Node :=
  match tag.kind with
  | .separator => .separator tag
  | .closer _ => .directive ⟨tag, tag.inner, false⟩
  | .expression body selfClosing => .directive ⟨tag, body, selfClosing⟩

def closerIn? (tag : Tag) (rest : List Tag) : Option Nat :=
  tag.openingToken?.bind fun token => findCloser? token 1 rest

@[simp] theorem closerIn?_nil (tag : Tag) : tag.closerIn? [] = none := by
  unfold closerIn?
  cases tag.openingToken? <;> rfl

theorem eq_inner_of_kind {tag : Tag} {body : Text} (h : tag.kind = .expression body false) :
    body = tag.inner := by
  simp only [kind] at h
  split at h
  · simp at h
  · split at h
    · simp at h
    · split at h
      · simp at h
      · simpa using h.symm

theorem openingToken?_eq_some_iff {tag : Tag} {token : Text} :
    tag.openingToken? = some token ↔
      tag.kind = .expression tag.inner false ∧ token = blockToken tag.inner := by
  unfold openingToken?
  constructor
  · intro h
    split at h
    · rename_i body hkind
      obtain rfl := eq_inner_of_kind hkind
      exact ⟨hkind, by simpa using h.symm⟩
    · simp at h
  · rintro ⟨hkind, rfl⟩
    rw [hkind]

theorem opens_iff {tag : Tag} {token : Text} :
    tag.opens token = true ↔ tag.openingToken? = some token := by
  simp [opens]

theorem closerIn?_lt {tag : Tag} {rest : List Tag} {distance : Nat}
    (h : tag.closerIn? rest = some distance) : distance < rest.length := by
  obtain ⟨token, -, hfound⟩ := Option.bind_eq_some_iff.mp h
  exact findCloser?_lt hfound

end Tag

def Node.ofBlock (tag : Tag) (children : List Node) : Node :=
  .block ⟨tag, tag.inner, false⟩ (blockToken tag.inner) children
    (Node.separatorIndexOf tag.inner children)

def treeOfTags (tagged : List (Text × Tag)) (tail : Text) : List Node :=
  match tagged with
  | [] => Node.ofLiteral tail
  | (before, tag) :: rest =>
      Node.ofLiteral before ++
        match tag.closerIn? (rest.map Prod.snd) with
        | none => tag.node :: treeOfTags rest tail
        | some distance =>
            match _h : rest.drop distance with
            | [] => tag.node :: treeOfTags rest tail
            | (last, _) :: after =>
                Node.ofBlock tag (treeOfTags (rest.take distance) last) ::
                  treeOfTags after tail
termination_by tagged.length
decreasing_by
  all_goals simp only [List.length_cons, List.length_take]
  all_goals first
    | omega
    | (replace _h := congrArg List.length _h
       simp only [List.length_drop, List.length_cons] at _h
       omega)

def Scan.tree (scan : Scan) : List Node := treeOfTags scan.tagged scan.rest

/-! ## One tag at a time -/

@[simp] theorem treeOfTags_nil (tail : Text) : treeOfTags [] tail = Node.ofLiteral tail := by
  rw [treeOfTags]

theorem treeOfTags_cons_plain {tag : Tag} {rest : List (Text × Tag)}
    (h : tag.closerIn? (rest.map Prod.snd) = none) (before tail : Text) :
    treeOfTags ((before, tag) :: rest) tail =
      Node.ofLiteral before ++ tag.node :: treeOfTags rest tail := by
  rw [treeOfTags, h]

theorem treeOfTags_cons_block {tag closer : Tag} {inside after : List (Text × Tag)}
    {last : Text}
    (h : tag.closerIn? ((inside ++ (last, closer) :: after).map Prod.snd) =
      some inside.length) (before tail : Text) :
    treeOfTags ((before, tag) :: (inside ++ (last, closer) :: after)) tail =
      Node.ofLiteral before ++
        Node.ofBlock tag (treeOfTags inside last) :: treeOfTags after tail := by
  rw [treeOfTags, h]
  congr 1
  simp only
  split
  · rename_i hdrop
    simp at hdrop
  · rename_i hdrop
    simp only [List.drop_left, List.cons.injEq, Prod.mk.injEq] at hdrop
    obtain ⟨⟨rfl, rfl⟩, rfl⟩ := hdrop
    rw [List.take_left]

theorem treeOfTags_induction {motive : List (Text × Tag) → Text → Prop}
    (nil : ∀ tail, motive [] tail)
    (plain : ∀ before tag rest tail, tag.closerIn? (rest.map Prod.snd) = none →
      motive rest tail → motive ((before, tag) :: rest) tail)
    (block : ∀ before tag inside last closer after tail,
      tag.closerIn? ((inside ++ (last, closer) :: after).map Prod.snd) =
        some inside.length →
      motive inside last → motive after tail →
        motive ((before, tag) :: (inside ++ (last, closer) :: after)) tail)
    (tagged : List (Text × Tag)) (tail : Text) : motive tagged tail := by
  induction hlength : tagged.length using Nat.strongRecOn generalizing tagged tail with
  | ind length ih =>
      cases tagged with
      | nil => exact nil tail
      | cons entry rest =>
          obtain ⟨before, tag⟩ := entry
          simp only [List.length_cons] at hlength
          cases hcloser : tag.closerIn? (rest.map Prod.snd) with
          | none =>
              exact plain before tag rest tail hcloser (ih _ (by omega) rest tail rfl)
          | some distance =>
              have hlt : distance < rest.length := by
                simpa using Tag.closerIn?_lt hcloser
              have hinside : (rest.take distance).length = distance := by
                rw [List.length_take]
                omega
              have hrest : rest.take distance ++
                  (rest[distance].1, rest[distance].2) :: rest.drop (distance + 1) = rest := by
                rw [← List.drop_eq_getElem_cons hlt, List.take_append_drop]
              rw [← hrest]
              refine block before tag _ _ _ _ tail ?_ ?_ ?_
              · rw [hrest, hinside, hcloser]
              · exact ih _ (by omega) _ _ rfl
              · exact ih _ (by rw [List.length_drop]; omega) _ _ rfl

/-! ## The last closers -/

namespace LastClosers

theorem find?_ofTags_append (tags : List Tag) (tag : Tag) (name : Text) :
    find? (ofTags (tags ++ [tag])) name =
      if tag.closes name then some tags.length else find? (ofTags tags) name := by
  unfold ofTags find? Tag.closes
  rw [List.zipIdx_append, List.filterMap_append, List.reverse_append]
  cases hkind : tag.kind with
  | closer other =>
      by_cases hname : name = other
      · simp [hkind, hname]
      · have hne : ¬ other = name := fun h => hname h.symm
        have hbeq : (name == other) = false := by simpa using hname
        simp [hkind, hne, hbeq, List.lookup_cons]
  | separator => simp [hkind]
  | expression body selfClosing => simp [hkind]

theorem not_closes_of_find?_none {tags : List Tag} {name : Text}
    (h : find? (ofTags tags) name = none) : ∀ tag ∈ tags, tag.closes name = false := by
  induction tags using List.reverseRecOn with
  | nil => simp
  | append_singleton tags tag ih =>
      rw [find?_ofTags_append] at h
      split at h
      · simp at h
      · rename_i hcloses
        intro other hmem
        rcases List.mem_append.mp hmem with hmem | hmem
        · exact ih h other hmem
        · obtain rfl := List.mem_singleton.mp hmem
          simpa using hcloses

theorem not_closes_of_find?_some {tags : List Tag} {name : Text} {last : Nat}
    (h : find? (ofTags tags) name = some last) :
    ∀ tag ∈ tags.drop (last + 1), tag.closes name = false := by
  induction tags using List.reverseRecOn with
  | nil => simp
  | append_singleton tags tag ih =>
      rw [find?_ofTags_append] at h
      split at h
      · simp only [Option.some.injEq] at h
        subst h
        simp
      · rename_i hcloses
        intro other hmem
        rw [List.drop_append] at hmem
        rcases List.mem_append.mp hmem with hmem | hmem
        · exact ih h other hmem
        · obtain rfl := List.mem_singleton.mp (List.mem_of_mem_drop hmem)
          simpa using hcloses

end LastClosers

theorem closerAmong?_eq_closerIn? (before beyond : List Tag) (opener : Tag)
    (rest : List (Text × Tag)) :
    closerAmong? (.ofTags (before ++ opener :: (rest.map Prod.snd ++ beyond)))
      before.length opener rest = opener.closerIn? (rest.map Prod.snd) := by
  unfold closerAmong? Tag.closerIn?
  cases htoken : opener.openingToken? with
  | none => rfl
  | some token =>
      have hopens : opener.opens token = true := Tag.opens_iff.mpr htoken
      simp only [Option.bind_some]
      cases hlast : LastClosers.find?
          (.ofTags (before ++ opener :: (rest.map Prod.snd ++ beyond))) token with
      | none =>
          -- no closer of the token anywhere, hence none in `rest`
          have hnone := LastClosers.not_closes_of_find?_none hlast
          symm
          apply findCloser?_eq_none_iff.mpr
          intro tag hmem
          exact hnone tag (by simp [hmem])
      | some last =>
          have hnone := LastClosers.not_closes_of_find?_some hlast
          rw [List.drop_append] at hnone
          simp only
          split
          · rename_i hle
            symm
            apply findCloser?_eq_none_iff.mpr
            intro tag hmem
            apply hnone tag
            apply List.mem_append_right
            have hsuffix : rest.map Prod.snd ++ beyond <:+
                (opener :: (rest.map Prod.snd ++ beyond)).drop (last + 1 - before.length) := by
              rcases Nat.eq_zero_or_pos (last + 1 - before.length) with hzero | hpos
              · rw [hzero]
                exact List.suffix_cons _ _
              · rw [show last + 1 - before.length = 1 by omega]
                exact List.suffix_rfl
            exact hsuffix.subset (List.mem_append_left _ hmem)
          · rename_i hlt
            rw [show last + 1 - before.length = last - before.length + 1 by omega,
              List.drop_succ_cons, List.drop_append] at hnone
            -- what lies behind the last closer is not searched, and nothing is lost by it
            have hpruned := findCloser?_append_of_not_closes
              (fun tag hmem => hnone tag (List.mem_append_right _ (List.mem_append_left _ hmem)))
              1 ((rest.map Prod.snd).take (last - before.length))
            rw [List.take_append_drop] at hpruned
            rw [matchBlock?_cons_of_opens hopens, Option.map_map, List.map_take, ← hpruned]
            cases findCloser? token 1 (rest.map Prod.snd) <;> rfl

/-! ## The two trees -/

private theorem nodesOfTags_cons_plain {closers : LastClosers} {position : Nat} {tag : Tag}
    {rest : List (Text × Tag)} (h : closerAmong? closers position tag rest = none)
    (before tail : Text) :
    nodesOfTags closers position ((before, tag) :: rest) tail =
      Node.ofLiteral before ++ tag.node :: nodesOfTags closers (position + 1) rest tail := by
  rw [nodesOfTags, Tag.node]
  cases tag.kind with
  | separator => rfl
  | closer name => rfl
  | expression body selfClosing => simp only [h]

private theorem nodesOfTags_cons_block {closers : LastClosers} {position : Nat}
    {tag closer : Tag} {inside after : List (Text × Tag)} {last : Text}
    (hkind : tag.kind = .expression tag.inner false)
    (h : closerAmong? closers position tag (inside ++ (last, closer) :: after) =
      some inside.length) (before tail : Text) :
    nodesOfTags closers position ((before, tag) :: (inside ++ (last, closer) :: after)) tail =
      Node.ofLiteral before ++
        Node.ofBlock tag (nodesOfTags closers (position + 1) inside last) ::
          nodesOfTags closers (position + inside.length + 2) after tail := by
  rw [nodesOfTags, hkind]
  simp only [h]
  congr 1
  split
  · rename_i hdrop
    simp at hdrop
  · rename_i hdrop
    simp only [List.drop_left, List.cons.injEq, Prod.mk.injEq] at hdrop
    obtain ⟨⟨rfl, rfl⟩, rfl⟩ := hdrop
    rw [List.take_left]
    rfl

theorem nodesOfTags_eq_treeOfTags {document : List Tag} (preceding beyond : List Tag)
    {position : Nat} {tagged : List (Text × Tag)} {tail : Text}
    (hdocument : document = preceding ++ (tagged.map Prod.snd ++ beyond))
    (hposition : position = preceding.length) :
    nodesOfTags (.ofTags document) position tagged tail = treeOfTags tagged tail := by
  induction tagged, tail using treeOfTags_induction generalizing preceding beyond position with
  | nil tail => rw [nodesOfTags, treeOfTags_nil]
  | plain before tag rest tail hcloser ih =>
      have hamong := closerAmong?_eq_closerIn? preceding beyond tag rest
      have hrest : position + 1 = (preceding ++ [tag]).length := by simp [hposition]
      rw [treeOfTags_cons_plain hcloser, ← ih _ beyond (by simp [hdocument]) hrest]
      apply nodesOfTags_cons_plain
      rw [hdocument, hposition, ← hcloser, ← hamong]
      simp
  | block before tag inside last closer after tail hcloser ihInside ihAfter =>
      obtain ⟨token, htoken, -⟩ := Option.bind_eq_some_iff.mp hcloser
      have hkind := (Tag.openingToken?_eq_some_iff.mp htoken).1
      have hamong := closerAmong?_eq_closerIn? preceding beyond tag
        (inside ++ (last, closer) :: after)
      have hinside : position + 1 = (preceding ++ [tag]).length := by simp [hposition]
      have hafter : position + inside.length + 2 =
          (preceding ++ tag :: inside.map Prod.snd ++ [closer]).length := by
        simp [hposition]
        omega
      rw [treeOfTags_cons_block hcloser,
        ← ihInside _ (closer :: after.map Prod.snd ++ beyond) (by simp [hdocument]) hinside,
        ← ihAfter _ beyond (by simp [hdocument]) hafter]
      apply nodesOfTags_cons_block hkind
      rw [hdocument, hposition, ← hcloser, ← hamong]
      simp

theorem parseTemplate_eq_tree (t : Text) : parseTemplate t = (Scan.ofText t).tree :=
  nodesOfTags_eq_treeOfTags [] [] (by simp [Scan.tags]) rfl

end BraceTemplate
