import BraceTemplate.Proofs.Template.Walk
import BraceTemplate.Proofs.Text.Occurrence

/-!
# The tags of a text by their places

A tag starts at the first opening braces behind the tag before it, and it ends
at the first closing braces behind its first character.  A text has exactly one
list of tags of which this holds and behind which there is no further tag: the
tags of its scan.
-/

namespace BraceTemplate

open Text (occurrences)

structure Span where
  text : Text
  start : Nat
  stop : Nat
  deriving DecidableEq, Repr

namespace Span

/--
The closing braces of a tag stand behind its opening braces, which take two
bytes, and at least one character.
-/
structure IsTagOf (t : Text) (span : Span) : Prop where
  slice : ∃ before after, t = before ++ span.text ++ after ∧
    before.utf8Size = span.start ∧ (before ++ span.text).utf8Size = span.stop
  braces : ∃ first more, span.text = Tag.opening ++ first :: more ++ Tag.closing
  lazy : ∃ last, IsLeast (occurrences Tag.closing t (span.start + 2 + 1)) last ∧
    span.stop = last + 2

def reached (start : Nat) (spans : List Span) : Nat := (spans.getLast?.map stop).getD start

/-- The tags of a text from a place on, up to where no tag follows. -/
structure Leftmost (t : Text) (start : Nat) (spans : List Span) : Prop where
  isTag : ∀ span ∈ spans, span.IsTagOf t
  leftmost : ∀ before span after, spans = before ++ span :: after →
    IsLeast (occurrences Tag.opening t (reached start before)) span.start
  complete : ∀ next, IsLeast (occurrences Tag.opening t (reached start spans)) next →
    occurrences Tag.closing t (next + 2 + 1) = ∅

/-! ## One tag after another -/

theorem reached_cons (start : Nat) (span : Span) (spans : List Span) :
    reached start (span :: spans) = reached span.stop spans := by
  rw [reached, reached, List.getLast?_cons]
  cases spans.getLast? <;> rfl

theorem leftmost_cons_iff {t : Text} {start : Nat} {span : Span} {spans : List Span} :
    Leftmost t start (span :: spans) ↔
      span.IsTagOf t ∧ IsLeast (occurrences Tag.opening t start) span.start ∧
        Leftmost t span.stop spans := by
  constructor
  · intro h
    refine ⟨h.isTag span List.mem_cons_self, h.leftmost [] span spans rfl, ?_⟩
    constructor
    · exact fun other hother => h.isTag other (List.mem_cons_of_mem span hother)
    · intro before other after hspans
      have hstart := h.leftmost (span :: before) other after (by rw [hspans]; rfl)
      rwa [reached_cons] at hstart
    · have hnone := h.complete
      rwa [reached_cons] at hnone
  · rintro ⟨htag, hstart, hrest⟩
    constructor
    · exact List.forall_mem_cons.mpr ⟨htag, hrest.isTag⟩
    · intro before other after hspans
      cases before with
      | nil =>
          obtain ⟨rfl, -⟩ := List.cons.inj hspans
          exact hstart
      | cons first before =>
          obtain ⟨rfl, htail⟩ := List.cons.inj hspans
          rw [reached_cons]
          exact hrest.leftmost before other after htail
    · rw [reached_cons]
      exact hrest.complete

namespace Leftmost

variable {t : Text} {start : Nat} {spans others : List Span}

theorem eq_of_places {span other : Span} (h : span.IsTagOf t) (hother : other.IsTagOf t)
    (hstart : span.start = other.start) : span = other := by
  obtain ⟨last, hlast, hstop⟩ := h.lazy
  obtain ⟨final, hfinal, hotherStop⟩ := hother.lazy
  rw [hstart] at hlast
  have hsame : span.stop = other.stop := by
    rw [hstop, hotherStop, hlast.unique hfinal]
  obtain ⟨before, after, htext, hbefore, hends⟩ := h.slice
  obtain ⟨first, rest, hagain, hfirst, hfinish⟩ := hother.slice
  rw [htext] at hagain
  have hwhole := Text.eq_of_utf8Size_eq hagain (by rw [hends, hfinish, hsame])
  rw [List.append_assoc, List.append_assoc] at hagain
  obtain rfl := Text.eq_of_utf8Size_eq hagain (by rw [hbefore, hfirst, hstart])
  obtain ⟨text, _, _⟩ := span
  obtain ⟨otherText, _, _⟩ := other
  simp only [List.append_cancel_left_eq] at hwhole hstart hsame
  rw [hwhole, hstart, hsame]

theorem unique (h : Leftmost t start spans) (hothers : Leftmost t start others) :
    spans = others := by
  -- a tag on one side only would be one that `complete` rules out on the other
  have habsurd : ∀ {start span rest}, Leftmost t start [] → ¬ Leftmost t start (span :: rest) := by
    intro start span rest hnil hcons
    obtain ⟨htag, hstart, -⟩ := leftmost_cons_iff.mp hcons
    obtain ⟨last, hlast, -⟩ := htag.lazy
    have hmem := hlast.1
    rw [hnil.complete span.start hstart] at hmem
    exact hmem
  induction spans generalizing start others with
  | nil =>
      cases others with
      | nil => rfl
      | cons other others => exact absurd hothers (habsurd h)
  | cons span spans ih =>
      cases others with
      | nil => exact absurd h (habsurd hothers)
      | cons other others =>
          obtain ⟨htag, hstart, hrest⟩ := leftmost_cons_iff.mp h
          obtain ⟨hotherTag, hotherStart, hotherRest⟩ := leftmost_cons_iff.mp hothers
          obtain rfl := eq_of_places htag hotherTag (hstart.unique hotherStart)
          rw [ih hrest hotherRest]

theorem inOrder (h : Leftmost t start spans) :
    (∀ span ∈ spans, start ≤ span.start) ∧
      spans.Pairwise fun first second => first.stop ≤ second.start := by
  induction spans generalizing start with
  | nil => simp
  | cons span spans ih =>
      obtain ⟨htag, hstart, hrest⟩ := leftmost_cons_iff.mp h
      obtain ⟨hbehind, hpairs⟩ := ih hrest
      obtain ⟨last, ⟨⟨-, hlast⟩, -⟩, hstop⟩ := htag.lazy
      have hfirst : start ≤ span.start := hstart.1.2
      refine ⟨?_, List.pairwise_cons.mpr ⟨hbehind, hpairs⟩⟩
      refine List.forall_mem_cons.mpr ⟨hfirst, fun other hother => ?_⟩
      have hother := hbehind other hother
      omega

end Leftmost

end Span

/-! ## The first tag -/

namespace Tag

variable {t before : Text}

theorem cuts_of_next? {after : Text} {tag : Tag} (h : next? t = some (before, tag, after)) :
    ∃ first inner rest, tag.inner = first :: inner ∧
      Text.cut? opening t = some (before, first :: rest) ∧
      Text.cut? closing rest = some (inner, after) := by
  unfold next? at h
  split at h
  · simp at h
  · simp at h
  · rename_i start first rest hopening
    split at h
    · simp at h
    · rename_i inner tail hclosing
      simp only [Option.some.injEq, Prod.mk.injEq] at h
      obtain ⟨rfl, rfl, rfl⟩ := h
      exact ⟨first, inner, rest, rfl, hopening, hclosing⟩

variable (passed : Text)

theorem closings_eq {first : Char} {rest : Text}
    (h : Text.cut? opening t = some (before, first :: rest)) :
    occurrences closing (passed ++ t) ((passed ++ before).utf8Size + 2 + 1) =
      occurrences closing (passed ++ before ++ opening ++ [first] ++ rest)
        (passed ++ before ++ opening ++ [first]).utf8Size := by
  have hbraces : (passed ++ before).utf8Size + 2 = (passed ++ before ++ opening).utf8Size :=
    (Text.utf8Size_append _ opening).symm
  have htext : passed ++ t = passed ++ before ++ opening ++ first :: rest := by
    rw [Text.eq_append_of_cut? h]
    simp
  rw [hbraces, htext, Text.occurrences_inside, List.append_cons]

theorem isTagOf_of_next? {after : Text} {tag : Tag} (h : next? t = some (before, tag, after)) :
    Span.IsTagOf (passed ++ t)
      ⟨tag.text, (passed ++ before).utf8Size, (passed ++ before ++ tag.text).utf8Size⟩ := by
  obtain ⟨first, inner, rest, hinner, hopening, hclosing⟩ := cuts_of_next? h
  have hwritten : tag.text = opening ++ first :: inner ++ closing := by
    rw [text, hinner]
  constructor
  · exact ⟨passed ++ before, after, by simp [eq_append_of_next? h], rfl, rfl⟩
  · exact ⟨first, inner, hwritten⟩
  · refine ⟨(passed ++ before ++ opening ++ [first] ++ inner).utf8Size, ?_, ?_⟩
    · rw [closings_eq passed hopening]
      exact Text.isLeast_occurrences_of_cut? _ hclosing
    · have hbraces : Text.utf8Size closing = 2 := rfl
      rw [← hbraces, ← Text.utf8Size_append, hwritten]
      simp

theorem isLeast_of_next? {after : Text} {tag : Tag} (h : next? t = some (before, tag, after)) :
    IsLeast (occurrences opening (passed ++ t) passed.utf8Size) (passed ++ before).utf8Size := by
  obtain ⟨first, inner, rest, -, hopening, -⟩ := cuts_of_next? h
  exact Text.isLeast_occurrences_of_cut? passed hopening

theorem closings_eq_empty_of_next?_none (h : next? t = none) {next : Nat}
    (hnext : IsLeast (occurrences opening (passed ++ t) passed.utf8Size) next) :
    occurrences closing (passed ++ t) (next + 2 + 1) = ∅ := by
  unfold next? at h
  split at h
  · rename_i hopening
    have hnone : occurrences opening (passed ++ t) passed.utf8Size = ∅ :=
      Text.occurrences_eq_empty_of_cut?_none passed hopening
    rw [hnone] at hnext
    exact absurd hnext.1 (Set.notMem_empty next)
  · rename_i before hopening
    obtain rfl := hnext.unique (Text.isLeast_occurrences_of_cut? passed hopening)
    -- the text ends with the opening braces
    refine Set.eq_empty_of_forall_notMem fun place hplace => ?_
    obtain ⟨⟨start, rest, htext, rfl⟩, hbehind⟩ := hplace
    have hsize := congrArg Text.utf8Size htext
    rw [Text.eq_append_of_cut? hopening] at hsize
    simp only [Text.utf8Size_append] at hsize hbehind
    have hbraces : Text.utf8Size opening = 2 := rfl
    have hempty : Text.utf8Size [] = 0 := rfl
    omega
  · rename_i first rest hopening
    split at h
    · rename_i hclosing
      obtain rfl := hnext.unique (Text.isLeast_occurrences_of_cut? passed hopening)
      rw [closings_eq passed hopening]
      exact Text.occurrences_eq_empty_of_cut?_none _ hclosing
    · simp at h

end Tag

/-! ## The tags of a scan -/

namespace Scan

def spansFrom (start : Nat) (scan : Scan) : List Span :=
  (scan.tags.zip (Piece.offsetsFrom start scan.pieces)).map fun (tag, start, stop) =>
    ⟨tag.text, start, stop⟩

def spans (scan : Scan) : List Span :=
  (scan.tags.zip scan.offsets).map fun (tag, start, stop) => ⟨tag.text, start, stop⟩

theorem spans_eq_spansFrom (scan : Scan) : scan.spans = scan.spansFrom 0 := by
  rw [spans, spansFrom, offsetsFrom_pieces]

theorem spansFrom_cons (start : Nat) (before : Text) (tag : Tag) (scan : Scan) :
    spansFrom start ⟨(before, tag) :: scan.tagged, scan.rest⟩ =
      ⟨tag.text, start + before.utf8Size, start + before.utf8Size + tag.text.utf8Size⟩ ::
        spansFrom (start + before.utf8Size + tag.text.utf8Size) scan := by
  rw [spansFrom, pieces, piecesOfTags_cons, Piece.offsetsFrom_ofLiteral_append]
  rfl

theorem leftmost_spansFrom (passed t : Text) :
    Span.Leftmost (passed ++ t) passed.utf8Size ((ofText t).spansFrom passed.utf8Size) := by
  induction t using next?_induction generalizing passed with
  | stop t hnext =>
      rw [ofText_of_next?_none hnext]
      constructor
      · intro span hspan
        exact absurd hspan List.not_mem_nil
      · intro before span after hspans
        simp [spansFrom, tags] at hspans
      · intro next hleast
        exact Tag.closings_eq_empty_of_next?_none passed hnext hleast
  | step t before tag after hnext ih =>
      rw [ofText_of_next?_some hnext, spansFrom_cons, ← Text.utf8Size_append,
        ← Text.utf8Size_append, Span.leftmost_cons_iff]
      refine ⟨Tag.isTagOf_of_next? passed hnext, Tag.isLeast_of_next? passed hnext, ?_⟩
      have hrest := ih (passed ++ before ++ tag.text)
      rw [Tag.eq_append_of_next? hnext]
      simpa using hrest

/--
The tags of a scan are those that are found from the left, each as short as it
can be, and no other list of tags is.  They stand behind one another, between
characters of the text.
-/
theorem leftmost_iff_eq_spans (t : Text) (spans : List Span) :
    (Span.Leftmost t 0 spans ↔ spans = (ofText t).spans) ∧
      ((ofText t).spans.Pairwise fun first second => first.stop ≤ second.start) ∧
      ∀ span ∈ (ofText t).spans,
        (⟨span.start⟩ : String.Pos.Raw).IsValid (String.ofList t) ∧
          (⟨span.stop⟩ : String.Pos.Raw).IsValid (String.ofList t) := by
  have hscan : Span.Leftmost t 0 (ofText t).spans := by
    rw [spans_eq_spansFrom]
    exact leftmost_spansFrom [] t
  refine ⟨⟨fun h => h.unique hscan, fun h => h ▸ hscan⟩, hscan.inOrder.2, fun span hspan => ?_⟩
  obtain ⟨before, after, htext, hstart, hstop⟩ := (hscan.isTag span hspan).slice
  constructor
  · rw [← hstart, htext, List.append_assoc]
    exact Text.isValid_utf8Size before _
  · rw [← hstop, htext]
    exact Text.isValid_utf8Size _ after

/-! Braces that overlap: a tag can begin with a brace of its own and does not end with one. -/

example : (ofText "é{{{a}}}{{b}}".toList).spans =
    [⟨Tag.text ⟨['{', 'a']⟩, 2, 8⟩, ⟨Tag.text ⟨['b']⟩, 9, 14⟩] := by
  decide +kernel

end Scan

end BraceTemplate
