import BraceTemplate.Proofs.Template.Expression
import BraceTemplate.Proofs.Template.Scan
import BraceTemplate.Proofs.Template.Tree
import Mathlib.Data.List.Infix

/-!
# Segments between backticks

A segment starts at the first backtick that can start one behind the segment
before it, and there is only one way to cut a text like this.

A segment of a tag is put between braces of its own and parsed.  Its tag ended
at the first closing braces, so that there are none in the segment: one tag
comes out, of which at most one brace is left over.  The only backtick that can
be in it is its first character, and that begins no further segment.
-/

namespace BraceTemplate

namespace Backtick

/-! ## Segments by their places -/

structure Enclosed (t : Text) : Prop where
  ne_nil : t ≠ []
  noFeed : '\n' ∉ t
  noMark : mark ∉ t.tail

def Begins (t : Text) : Prop :=
  ∃ inner after, Enclosed inner ∧ t = mark :: (inner ++ mark :: after)

/-- No segment starts in `literal`, where `after` follows it. -/
def Clear (literal after : Text) : Prop :=
  ∀ rest, rest <:+ literal → rest ≠ [] → ¬ Begins (rest ++ after)

def written (rest : List (Text × Text)) : Text :=
  rest.flatMap fun (inner, after) => mark :: (inner ++ mark :: after)

inductive Leftmost : Text → List (Text × Text) → Prop where
  | last {literal : Text} (clear : Clear literal []) : Leftmost literal []
  | segment {literal inner next : Text} {rest : List (Text × Text)} (enclosed : Enclosed inner)
      (clear : Clear literal (written ((inner, next) :: rest))) (more : Leftmost next rest) :
      Leftmost literal ((inner, next) :: rest)

theorem written_cons (inner next : Text) (rest : List (Text × Text)) :
    written ((inner, next) :: rest) = mark :: (inner ++ mark :: (next ++ written rest)) := by
  simp [written]

theorem enclosed_of_segment? {t inner after : Text} (h : segment? t = some (inner, after)) :
    Enclosed inner ∧ t = inner ++ mark :: after := by
  cases t with
  | nil => cases h
  | cons first rest =>
      let more := rest.takeWhile fun c => c != mark && c != '\n'
      have hmore : ∀ c ∈ more, c ≠ mark ∧ c ≠ '\n' := fun c hc => by
        simpa using List.mem_takeWhile_imp hc
      have hrest : rest = more ++ rest.drop more.length := by
        obtain ⟨tail, htail⟩ : more <+: rest := List.takeWhile_prefix _
        rw [← htail, List.drop_left]
      simp only [segment?] at h
      split at h
      · cases h
      · rename_i hfirst
        split at h
        · cases h
        · rename_i last tail hdrop
          split at h
          · rename_i hlast
            obtain rfl := beq_iff_eq.mp hlast
            cases h
            refine ⟨⟨by simp, ?_, fun hmem => (hmore _ hmem).1 rfl⟩, ?_⟩
            · rw [List.mem_cons, not_or]
              exact ⟨fun heq => hfirst (by simp [← heq]), fun hmem => (hmore _ hmem).2 rfl⟩
            · rw [List.cons_append, ← hdrop, ← hrest]
          · cases h

theorem segment?_append {inner : Text} (h : Enclosed inner) (after : Text) :
    segment? (inner ++ mark :: after) = some (inner, after) := by
  obtain ⟨hnil, hfeed, hmark⟩ := h
  cases inner with
  | nil => exact absurd rfl hnil
  | cons first more =>
      rw [List.mem_cons, not_or] at hfeed
      rw [List.tail_cons] at hmark
      have hmore : ∀ c ∈ more, (c != mark && c != '\n') = true := by
        intro c hc
        have hneMark : c ≠ mark := fun heq => hmark (heq ▸ hc)
        have hneFeed : c ≠ '\n' := fun heq => hfeed.2 (heq ▸ hc)
        simp [hneMark, hneFeed]
      have htake : (more ++ mark :: after).takeWhile (fun c => c != mark && c != '\n') = more := by
        rw [List.takeWhile_append_of_pos hmore]
        simp
      simp [segment?, Ne.symm hfeed.1, htake]

theorem segment?_eq_some_iff {t inner after : Text} :
    segment? t = some (inner, after) ↔ Enclosed inner ∧ t = inner ++ mark :: after := by
  constructor
  · exact enclosed_of_segment?
  · rintro ⟨henclosed, rfl⟩
    exact segment?_append henclosed after

theorem begins_cons_iff {c : Char} {t : Text} :
    Begins (c :: t) ↔ c = mark ∧ ∃ inner after, segment? t = some (inner, after) := by
  simp only [Begins, segment?_eq_some_iff, List.cons.injEq]
  constructor
  · rintro ⟨inner, after, henclosed, rfl, rfl⟩
    exact ⟨rfl, inner, after, henclosed, rfl⟩
  · rintro ⟨rfl, inner, after, henclosed, rfl⟩
    exact ⟨inner, after, henclosed, rfl, rfl⟩

instance (t : Text) : Decidable (Enclosed t) :=
  decidable_of_iff (t ≠ [] ∧ '\n' ∉ t ∧ mark ∉ t.tail)
    ⟨fun ⟨hnil, hfeed, hmark⟩ => ⟨hnil, hfeed, hmark⟩, fun h => ⟨h.ne_nil, h.noFeed, h.noMark⟩⟩

instance (t : Text) : Decidable (Begins t) :=
  decidable_of_iff (t.head? = some mark ∧ (segment? t.tail).isSome = true) (by
    cases t with
    | nil => simp [Begins]
    | cons c t => simp [begins_cons_iff, Option.isSome_iff_exists])

instance (literal after : Text) : Decidable (Clear literal after) :=
  decidable_of_iff (∀ rest ∈ literal.tails, rest ≠ [] → ¬ Begins (rest ++ after))
    (by simp [Clear, List.mem_tails])

theorem clear_cons_iff {c : Char} {literal after : Text} :
    Clear (c :: literal) after ↔ ¬ Begins (c :: (literal ++ after)) ∧ Clear literal after := by
  simp only [Clear, List.suffix_cons_iff]
  constructor
  · intro h
    exact ⟨h _ (.inl rfl) (by simp), fun rest hrest => h rest (.inr hrest)⟩
  · rintro ⟨hfirst, hrest⟩ rest (rfl | hsuffix) hnil
    · exact hfirst
    · exact hrest rest hsuffix hnil

theorem clear_nil (after : Text) : Clear [] after := by
  intro rest hrest hnil
  exact absurd (List.suffix_nil.mp hrest) hnil

theorem Clear.of_append {literal after : Text} (h : Clear literal after) : Clear literal [] := by
  intro rest hrest hnil hbegins
  apply h rest hrest hnil
  obtain ⟨inner, tail, henclosed, htext⟩ := hbegins
  rw [List.append_nil] at htext
  exact ⟨inner, tail ++ after, henclosed, by simp [htext]⟩

/-! ## The segments that are found -/

theorem nextFrom_of_clear {literal : Text} (h : Clear literal []) (seen : Text) :
    nextFrom seen literal = none := by
  induction literal generalizing seen with
  | nil => rfl
  | cons c literal ih =>
      obtain ⟨hfirst, hrest⟩ := clear_cons_iff.mp h
      rw [List.append_nil, begins_cons_iff] at hfirst
      rw [nextFrom]
      split
      · rename_i hc
        split
        · rename_i hsegment
          exact absurd ⟨beq_iff_eq.mp hc, _, _, hsegment⟩ hfirst
        · exact ih hrest _
      · exact ih hrest _

theorem nextFrom_append_of_clear {literal inner after : Text} (henclosed : Enclosed inner)
    (h : Clear literal (mark :: (inner ++ mark :: after))) (seen : Text) :
    nextFrom seen (literal ++ mark :: (inner ++ mark :: after)) =
      some (seen.reverse ++ literal, inner, after) := by
  induction literal generalizing seen with
  | nil =>
      simp [nextFrom, segment?_append henclosed]
  | cons c literal ih =>
      obtain ⟨hfirst, hrest⟩ := clear_cons_iff.mp h
      rw [begins_cons_iff] at hfirst
      have hstep := ih hrest (c :: seen)
      rw [List.reverse_cons, List.append_assoc] at hstep
      rw [List.cons_append, nextFrom]
      split
      · rename_i hc
        split
        · rename_i hsegment
          exact absurd ⟨beq_iff_eq.mp hc, _, _, hsegment⟩ hfirst
        · exact hstep
      · exact hstep

theorem clear_of_nextFrom_none {seen t : Text} (h : nextFrom seen t = none) : Clear t [] := by
  induction t generalizing seen with
  | nil => exact clear_nil []
  | cons c t ih =>
      rw [nextFrom] at h
      rw [clear_cons_iff, List.append_nil, begins_cons_iff]
      split at h
      · split at h
        · cases h
        · rename_i hnone
          exact ⟨by simp [hnone], ih h⟩
      · rename_i hc
        exact ⟨fun hbegins => hc (beq_iff_eq.mpr hbegins.1), ih h⟩

theorem clear_of_nextFrom {seen t before inner after : Text}
    (h : nextFrom seen t = some (before, inner, after)) :
    ∃ literal, before = seen.reverse ++ literal ∧
      t = literal ++ mark :: (inner ++ mark :: after) ∧ Enclosed inner ∧
      Clear literal (mark :: (inner ++ mark :: after)) := by
  induction t generalizing seen with
  | nil => cases h
  | cons c t ih =>
      -- a character that starts no segment goes to the literal
      have hnext : ¬ Begins (c :: t) → nextFrom (c :: seen) t = some (before, inner, after) →
          ∃ literal, before = seen.reverse ++ literal ∧
            c :: t = literal ++ mark :: (inner ++ mark :: after) ∧ Enclosed inner ∧
            Clear literal (mark :: (inner ++ mark :: after)) := by
        intro hbegins hrest
        obtain ⟨literal, hbefore, rfl, henclosed, hclear⟩ := ih hrest
        exact ⟨c :: literal, by simp [hbefore], rfl, henclosed,
          clear_cons_iff.mpr ⟨hbegins, hclear⟩⟩
      rw [nextFrom] at h
      rw [begins_cons_iff] at hnext
      split at h
      · rename_i hc
        split at h
        · rename_i hsegment
          simp only [Option.some.injEq, Prod.mk.injEq] at h
          obtain ⟨rfl, rfl, rfl⟩ := h
          obtain ⟨henclosed, rfl⟩ := enclosed_of_segment? hsegment
          exact ⟨[], by simp, by simp [beq_iff_eq.mp hc], henclosed, clear_nil _⟩
        · rename_i hnone
          exact hnext (by simp [hnone]) h
      · rename_i hc
        exact hnext (fun hbegins => hc (beq_iff_eq.mpr hbegins.1)) h

theorem segments_of_nextFrom_none {t : Text} (h : nextFrom [] t = none) : segments t = (t, []) := by
  rw [segments]
  split
  · rfl
  · rename_i hnext
    simp [h] at hnext

theorem segments_of_nextFrom {t before inner after : Text}
    (h : nextFrom [] t = some (before, inner, after)) :
    segments t = (before, (inner, (segments after).1) :: (segments after).2) := by
  rw [segments]
  split
  · rename_i hnext
    simp [h] at hnext
  · rename_i hnext
    rw [h] at hnext
    cases hnext
    rfl

theorem segments_of_leftmost {before : Text} {rest : List (Text × Text)}
    (h : Leftmost before rest) : segments (before ++ written rest) = (before, rest) := by
  induction h with
  | @last literal clear =>
      have hnone := nextFrom_of_clear clear []
      simpa [written] using segments_of_nextFrom_none hnone
  | @segment literal inner next rest enclosed clear more ih =>
      rw [written_cons] at clear ⊢
      have hnext := nextFrom_append_of_clear enclosed clear []
      rw [List.reverse_nil, List.nil_append] at hnext
      rw [segments_of_nextFrom hnext, ih]

theorem leftmost_segments (t : Text) :
    Leftmost (segments t).1 (segments t).2 ∧ t = (segments t).1 ++ written (segments t).2 := by
  induction hlength : t.length using Nat.strongRecOn generalizing t with
  | ind length ih =>
      cases hnext : nextFrom [] t with
      | none =>
          rw [segments_of_nextFrom_none hnext]
          exact ⟨.last (clear_of_nextFrom_none hnext), by simp [written]⟩
      | some found =>
          obtain ⟨before, inner, after⟩ := found
          have hshorter := length_of_nextFrom hnext
          obtain ⟨hmore, hafter⟩ := ih after.length (by omega) after rfl
          obtain ⟨literal, hbefore, htext, henclosed, hclear⟩ := clear_of_nextFrom hnext
          obtain rfl : before = literal := hbefore
          rw [segments_of_nextFrom hnext]
          have hwritten : written ((inner, (segments after).1) :: (segments after).2) =
              mark :: (inner ++ mark :: after) := by
            rw [written_cons, ← hafter]
          exact ⟨.segment henclosed (hwritten ▸ hclear) hmore, by rw [hwritten, ← htext]⟩

theorem Leftmost.clear_literals {before : Text} {rest : List (Text × Text)}
    (h : Leftmost before rest) : ∀ literal ∈ before :: rest.map Prod.snd, Clear literal [] := by
  induction h with
  | last clear => simpa using clear
  | segment _ clear _ ih => exact List.forall_mem_cons.mpr ⟨clear.of_append, ih⟩

theorem Leftmost.enclosed_of_mem {before : Text} {rest : List (Text × Text)}
    (h : Leftmost before rest) {segment : Text × Text} (hmem : segment ∈ rest) :
    Enclosed segment.1 ∧
      ∃ start after, before ++ written rest = start ++ mark :: (segment.1 ++ mark :: after) := by
  induction h with
  | last => cases hmem
  | @segment literal inner next rest enclosed _ _ ih =>
      rw [written_cons]
      rcases List.mem_cons.mp hmem with rfl | hrest
      · exact ⟨enclosed, literal, next ++ written rest, rfl⟩
      · obtain ⟨henclosed, start, after, htext⟩ := ih hrest
        rw [htext]
        exact ⟨henclosed, literal ++ mark :: (inner ++ mark :: start), after, by simp⟩

/-! ## Segments of tags -/

theorem segments_of_not_mem_tail {t : Text} (h : mark ∉ t.tail) : segments t = (t, []) := by
  apply segments_of_nextFrom_none
  apply nextFrom_of_clear
  intro rest hrest _ hbegins
  obtain ⟨inner, after, -, htext⟩ := hbegins
  -- the mark that ends a segment stands behind the first character
  obtain ⟨start, rfl⟩ := hrest
  rw [List.append_nil] at htext
  subst htext
  cases start <;> simp at h

theorem expand_of_not_mem_tail {m : Type → Type} [Monad m] [LawfulMonad m] {t : Text}
    (h : mark ∉ t.tail) (evaluate : Text → m String) : expand evaluate t = pure t := by
  simp [expand, segments_of_not_mem_tail h]

structure IsInner (t : Text) : Prop where
  ne_nil : t ≠ []
  noMark : mark ∉ t.tail
  noClosing : ¬ Tag.closing <:+: t.tail

theorem isInner_of_mem_segments {t : Text} (hclosing : ¬ Tag.closing <:+: t.tail)
    {segment : Text × Text} (h : segment ∈ (segments t).2) : IsInner segment.1 := by
  obtain ⟨hleftmost, htext⟩ := leftmost_segments t
  obtain ⟨⟨hnil, -, hmark⟩, before, after, hwritten⟩ := hleftmost.enclosed_of_mem h
  rw [← htext] at hwritten
  refine ⟨hnil, hmark, fun hmore => hclosing (hmore.trans ?_)⟩
  obtain ⟨first, more, hsegment⟩ := List.exists_cons_of_ne_nil hnil
  rw [hwritten, hsegment]
  cases before with
  | nil => exact ⟨[first], mark :: after, by simp⟩
  | cons c before => exact ⟨before ++ [mark, first], mark :: after, by simp⟩

end Backtick

/-! ## Tags of a scan -/

namespace Tag

theorem noClosing_of_next? {t before after : Text} {tag : Tag}
    (h : next? t = some (before, tag, after)) : ¬ closing <:+: tag.inner.tail := by
  unfold next? at h
  split at h
  · simp at h
  · simp at h
  · split at h
    · simp at h
    · rename_i hclosing
      simp only [Option.some.injEq, Prod.mk.injEq] at h
      obtain ⟨-, rfl, -⟩ := h
      exact Text.not_infix_of_cut? hclosing

theorem prefix_inner_of_kind {tag : Tag} {body : Text} {selfClosing : Bool}
    (h : tag.kind = .expression body selfClosing) : body <+: tag.inner := by
  simp only [kind] at h
  split at h
  · simp at h
  · split at h
    · simp at h
    · split at h <;> cases h
      · exact List.dropLast_prefix _
      · exact List.prefix_rfl

end Tag

theorem Scan.noClosing_of_mem_tags {t : Text} {tag : Tag} (h : tag ∈ (ofText t).tags) :
    ¬ Tag.closing <:+: tag.inner.tail := by
  induction t using Scan.next?_induction with
  | stop t hnext =>
      rw [ofText_of_next?_none hnext] at h
      exact absurd h List.not_mem_nil
  | step t before found after hnext ih =>
      rw [ofText_of_next?_some hnext] at h
      rcases List.mem_cons.mp h with rfl | hmore
      · exact Tag.noClosing_of_next? hnext
      · exact ih hmore

/-! ## Segments as templates -/

namespace Backtick

theorem next?_text_of_isInner {t : Text} (h : IsInner t) :
    ∃ (tag : Tag) (rest : Text), Tag.next? (Tag.text ⟨t⟩) = some ([], tag, rest) ∧
      Tag.next? rest = none ∧ tag.inner <+: t := by
  obtain ⟨hnil, -, hclosing⟩ := h
  cases t with
  | nil => exact absurd rfl hnil
  | cons first more =>
      rw [List.tail_cons] at hclosing
      have hopening : Text.cut? Tag.opening (Tag.text ⟨first :: more⟩) =
          some ([], first :: (more ++ Tag.closing)) := by
        simp [Tag.text, Tag.opening, Text.cut?_cons]
      have hnext : ∀ inner rest, Text.cut? Tag.closing (more ++ Tag.closing) = some (inner, rest) →
          Tag.next? (Tag.text ⟨first :: more⟩) = some ([], ⟨first :: inner⟩, rest) := by
        intro inner rest hcut
        simp [Tag.next?, hopening, hcut]
      by_cases hlast : more.getLast? = some '}'
      · -- the tag ends one character early, and one brace is left over
        obtain ⟨before, rfl⟩ := List.getLast?_eq_some_iff.mp hlast
        refine ⟨⟨first :: before⟩, ['}'], hnext before ['}'] ?_, rfl, by simp⟩
        have habsent : ¬ ['}', '}'] <:+: before := fun hbefore =>
          hclosing (hbefore.trans (List.prefix_append before ['}']).isInfix)
        have hbrace : before.getLast? ≠ some '}' := by
          intro hbrace
          obtain ⟨start, rfl⟩ := List.getLast?_eq_some_iff.mp hbrace
          exact hclosing ⟨start, [], by simp [Tag.closing]⟩
        have hcut := Text.cut?_append_of_some
          (Text.cut?_append_doubled_iff.mpr ⟨habsent, hbrace⟩) ['}']
        simpa [Tag.closing] using hcut
      · refine ⟨⟨first :: more⟩, [], hnext more [] ?_, rfl, List.prefix_rfl⟩
        exact Text.cut?_append_doubled_iff.mpr ⟨hclosing, hlast⟩

theorem parseTemplate_of_isInner {t : Text} (h : IsInner t) :
    ∃ (tag : Tag) (rest : Text), parseTemplate (Tag.text ⟨t⟩) = tag.node :: Node.ofLiteral rest ∧
      tag.inner <+: t := by
  obtain ⟨tag, rest, hnext, hrest, hinner⟩ := next?_text_of_isInner h
  refine ⟨tag, rest, ?_, hinner⟩
  have hcloser : tag.closerIn? (([] : List (Text × Tag)).map Prod.snd) = none := tag.closerIn?_nil
  rw [parseTemplate_eq_tree, Scan.ofText_of_next?_some hnext, Scan.ofText_of_next?_none hrest,
    Scan.tree, treeOfTags_cons_plain hcloser, treeOfTags_nil]
  rfl

end Backtick

end BraceTemplate
