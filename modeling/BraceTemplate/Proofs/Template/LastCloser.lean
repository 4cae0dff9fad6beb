import BraceTemplate.Proofs.Template.Tree

/-!
# Searching up to the last closer

The parser searches for the closer of a block no further than the last closer
of its token in the whole document, wherever the enclosing block ends.  Matching
over all tags up to the end of the enclosing block gives the same extent, and so
the same tree.
-/

namespace BraceTemplate

def LastClosers.extent? (closers : LastClosers) (token : Text) (tags : List Tag)
    (start stop : Nat) : Option Extent :=
  (closers.find? token).bind fun last =>
    if last ≤ start then none else matchBlock? token (tags.extract start (min stop (last + 1)))

def Extent.ofDistance (distance : Nat) : Extent := ⟨0, distance + 1⟩

theorem Extent.map_closer_map_ofDistance (found : Option Nat) :
    (found.map ofDistance).map (·.closer - 1) = found := by
  cases found <;> rfl

theorem matchBlock?_eq_map_ofDistance {token : Text} {opener : Tag}
    (htoken : opener.openingToken? = some token) (rest : List Tag) :
    matchBlock? token (opener :: rest) = (opener.closerIn? rest).map Extent.ofDistance := by
  rw [matchBlock?_cons_of_opens (Tag.opens_iff.mpr htoken), Tag.closerIn?, htoken]
  rfl

section Position

variable {tagged : List (Text × Tag)} {start stop : Nat} {opener : Tag} {token : Text}
  (hopener : (tagged.map Prod.snd)[start]? = some opener)
  (htoken : opener.openingToken? = some token) (hstop : start < stop)

include hopener

private theorem extract_eq_cons (hstop : start < stop) :
    (tagged.map Prod.snd).extract start stop =
      opener :: (tagged.extract (start + 1) stop).map Prod.snd := by
  obtain ⟨hlt, hget⟩ := List.getElem?_eq_some_iff.mp hopener
  rw [List.extract_eq_take_drop, List.extract_eq_take_drop, List.drop_eq_getElem_cons hlt, hget,
    show stop - start = stop - (start + 1) + 1 by omega, List.take_succ_cons, List.map_take,
    List.map_drop]

include htoken hstop

theorem extent?_eq_map_closerAmong? (closers : LastClosers) :
    closers.extent? token (tagged.map Prod.snd) start stop =
      (closerAmong? closers start opener (tagged.extract (start + 1) stop)).map
        Extent.ofDistance := by
  unfold closerAmong? LastClosers.extent?
  simp only [htoken]
  cases closers.find? token with
  | none => rfl
  | some last =>
      simp only [Option.bind_some]
      split
      · rfl
      · have hsearched : (tagged.extract (start + 1) stop).take (last - start) =
            tagged.extract (start + 1) (min stop (last + 1)) := by
          rw [List.extract_eq_take_drop, List.extract_eq_take_drop, List.take_take,
            show min (last - start) (stop - (start + 1)) =
              min stop (last + 1) - (start + 1) by omega]
        rw [hsearched, extract_eq_cons hopener (by omega), matchBlock?_eq_map_ofDistance htoken,
          Option.map_map, Option.map_map]
        rfl

theorem extent?_eq_matchBlock? :
    (LastClosers.ofTags (tagged.map Prod.snd)).extent? token (tagged.map Prod.snd) start stop =
      matchBlock? token ((tagged.map Prod.snd).extract start stop) := by
  have hlength : ((tagged.map Prod.snd).take start).length = start := by
    have := (List.getElem?_eq_some_iff.mp hopener).1
    rw [List.length_take]
    omega
  -- the whole document, cut around the tags that are searched
  have hdocument : (tagged.map Prod.snd).take start ++
      opener :: ((tagged.extract (start + 1) stop).map Prod.snd ++
        (tagged.map Prod.snd).drop stop) = tagged.map Prod.snd := by
    rw [← List.cons_append, ← extract_eq_cons hopener hstop, List.extract_eq_take_drop,
      show stop = start + (stop - start) by omega, ← List.drop_drop, Nat.add_sub_cancel_left,
      List.take_append_drop, List.take_append_drop]
  have hamong := closerAmong?_eq_closerIn? ((tagged.map Prod.snd).take start)
    ((tagged.map Prod.snd).drop stop) opener (tagged.extract (start + 1) stop)
  rw [hdocument, hlength] at hamong
  rw [extent?_eq_map_closerAmong? hopener htoken hstop, hamong, extract_eq_cons hopener hstop,
    matchBlock?_eq_map_ofDistance htoken]

end Position

/--
What the parser decides about the tag at `start` is what matching over all tags
before `stop` decides.  Its tree is that of the parser that always matches over
all tags that are left.
-/
theorem parseTemplate_ignores_lastClosers :
    (∀ (tagged : List (Text × Tag)) (start stop : Nat) (opener : Tag) (token : Text),
      (tagged.map Prod.snd)[start]? = some opener → opener.openingToken? = some token →
      start < stop → stop ≤ tagged.length →
      let tags := tagged.map Prod.snd
      let decided := (LastClosers.ofTags tags).extent? token tags start stop
      closerAmong? (.ofTags tags) start opener (tagged.extract (start + 1) stop) =
          decided.map (·.closer - 1) ∧
        decided = matchBlock? token (tags.extract start stop)) ∧
    (∀ (opener : Tag) (rest : List Tag), opener.closerIn? rest =
      opener.openingToken?.bind fun token =>
        (matchBlock? token (opener :: rest)).map (·.closer - 1)) ∧
    ∀ t, parseTemplate t = (Scan.ofText t).tree := by
  refine ⟨?_, ?_, parseTemplate_eq_tree⟩
  · intro tagged start stop opener token hopener htoken hstop _ tags decided
    have hdecided : decided = _ := extent?_eq_map_closerAmong? hopener htoken hstop _
    refine ⟨?_, extent?_eq_matchBlock? hopener htoken hstop⟩
    rw [hdecided, Extent.map_closer_map_ofDistance]
  · intro opener rest
    cases htoken : opener.openingToken? with
    | none => simp [Tag.closerIn?, htoken]
    | some token =>
        rw [Option.bind_some, matchBlock?_eq_map_ofDistance htoken,
          Extent.map_closer_map_ofDistance]

theorem parseTemplate_ignores_lastClosers_surplus :
    let tagged := (Scan.ofText "{{a}}{{b}}{{b}}{{/b}}{{b}}{{/a}}".toList).tagged
    let tags := tagged.map Prod.snd
    let opener : Tag := ⟨"b".toList⟩
    tags[1]? = some opener ∧ opener.openingToken? = some "b".toList ∧ 1 < 5 ∧ 5 ≤ tagged.length ∧
      (LastClosers.ofTags tags).extent? "b".toList tags 1 5 = some ⟨0, 2⟩ ∧
      matchBlock? "b".toList (tags.extract 1 5) = some ⟨0, 2⟩ := by
  intro tagged tags opener
  have hopener : tags[1]? = some opener := by decide +kernel
  have htoken : opener.openingToken? = some "b".toList := by decide +kernel
  have hlength : 5 ≤ tagged.length := by decide +kernel
  have hextent : (LastClosers.ofTags tags).extent? "b".toList tags 1 5 = some ⟨0, 2⟩ := by
    decide +kernel
  have hdecided := (parseTemplate_ignores_lastClosers.1 tagged 1 5 opener "b".toList hopener
    htoken (by decide) hlength).2
  exact ⟨hopener, htoken, by decide, hlength, hextent, hdecided.symm.trans hextent⟩

end BraceTemplate
