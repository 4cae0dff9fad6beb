import BraceTemplate.Proofs.Engine.Rendering
import BraceTemplate.Proofs.Template.Segment

/-!
# Replacing the segments of an expression

The segments of an expression are evaluated in their order, once each and up to
the first that fails.  Their results stand in their places, and the text between
them stays as it is.
-/

namespace BraceTemplate.Backtick

/-- An evaluation may fail, and it keeps a state, also when it fails. -/
abbrev Evaluator (σ ε : Type) := Text → ExceptT ε (StateM σ) String

variable {σ ε : Type} {evaluate : Evaluator σ ε}

/-- Called on the expressions in their order, the evaluator gives the results. -/
inductive Answers (evaluate : Evaluator σ ε) : List Text → σ → List String → σ → Prop where
  | nil (state : σ) : Answers evaluate [] state [] state
  | cons {inner : Text} {inners : List Text} {state middle after : σ} {result : String}
      {results : List String} (first : evaluate inner state = (.ok result, middle))
      (rest : Answers evaluate inners middle results after) :
      Answers evaluate (inner :: inners) state (result :: results) after

def noting (evaluate : Evaluator σ ε) : Evaluator (List Text × σ) ε := fun inner (seen, state) =>
  let (outcome, after) := evaluate inner state
  (outcome, seen ++ [inner], after)

theorem Answers.noting {inners : List Text} {state after : σ} {results : List String}
    (h : Answers evaluate inners state results after) (seen : List Text) :
    Answers (noting evaluate) inners (seen, state) results (seen ++ inners, after) := by
  induction h generalizing seen with
  | nil state =>
      rw [List.append_nil]
      exact .nil _
  | @cons inner inners state middle after result results first rest ih =>
      have hrest := ih (seen ++ [inner])
      rw [List.append_assoc] at hrest
      exact .cons (by simp [Backtick.noting, first]) hrest

/-! ## Results between literals -/

def fill (results : List String) (literals : List Text) : List Text :=
  List.zipWith (fun result literal => result.toList ++ literal) results literals

def pieces (evaluate : Evaluator σ ε) (rest : List (Text × Text)) :
    ExceptT ε (StateM σ) (List Text) :=
  rest.mapM fun (inner, next) => do return (← evaluate inner).toList ++ next

theorem expand_eq (evaluate : Evaluator σ ε) (t : Text) :
    expand evaluate t = do
      let pieces ← pieces evaluate (segments t).2
      return (segments t).1 ++ pieces.flatten :=
  rfl

theorem pieces_cons (evaluate : Evaluator σ ε) (inner next : Text) (rest : List (Text × Text)) :
    pieces evaluate ((inner, next) :: rest) = do
      let result ← evaluate inner
      let more ← pieces evaluate rest
      return (result.toList ++ next) :: more := by
  simp [pieces]

theorem pieces_of_answers {rest : List (Text × Text)} {state after : σ} {results : List String}
    (h : Answers evaluate (rest.map Prod.fst) state results after) :
    pieces evaluate rest state = (.ok (fill results (rest.map Prod.snd)), after) := by
  induction rest generalizing state results with
  | nil =>
      cases h
      rfl
  | cons segment rest ih =>
      cases h with
      | cons first more =>
          rw [pieces_cons, Render.bind_apply, first]
          simp only
          rw [Render.bind_apply, ih more]
          rfl

theorem pieces_of_failure {rest : List (Text × Text)} {asked unasked : List Text} {inner : Text}
    {state middle after : σ} {results : List String} {cause : ε}
    (hrest : rest.map Prod.fst = asked ++ inner :: unasked)
    (h : Answers evaluate asked state results middle)
    (hfailure : evaluate inner middle = (.error cause, after)) :
    pieces evaluate rest state = (.error cause, after) := by
  induction h generalizing rest with
  | nil state =>
      obtain ⟨segment, rest, rfl, rfl, -⟩ := List.map_eq_cons_iff.mp hrest
      rw [pieces_cons, Render.bind_apply, hfailure]
  | cons first _ ih =>
      obtain ⟨segment, rest, rfl, rfl, hmore⟩ := List.map_eq_cons_iff.mp hrest
      rw [pieces_cons, Render.bind_apply, first]
      simp only
      rw [Render.bind_apply, ih hmore hfailure]

/-! ## The expanded text -/

section Expanded

variable {t before : Text} {rest : List (Text × Text)} (hsegments : segments t = (before, rest))
  {state : σ}

include hsegments

theorem expand_of_answers {results : List String} {after : σ}
    (h : Answers evaluate (rest.map Prod.fst) state results after) :
    expand evaluate t state =
      (.ok (before ++ (fill results (rest.map Prod.snd)).flatten), after) := by
  rw [expand_eq, hsegments, Render.bind_apply, pieces_of_answers h]
  rfl

theorem expand_of_failure {asked unasked : List Text} {inner : Text} {results : List String}
    {middle after : σ} {cause : ε} (hrest : rest.map Prod.fst = asked ++ inner :: unasked)
    (h : Answers evaluate asked state results middle)
    (hfailure : evaluate inner middle = (.error cause, after)) :
    expand evaluate t state = (.error cause, after) := by
  rw [expand_eq, hsegments, Render.bind_apply, pieces_of_failure hrest h hfailure]

end Expanded

theorem expand_marked {m : Type → Type} [Monad m] [LawfulMonad m] (t : Text) :
    expand (fun inner => pure (String.ofList (mark :: (inner ++ [mark])))) t =
      (pure t : m Text) := by
  have hpieces : (((segments t).2.map fun segment =>
      mark :: (segment.1 ++ [mark]) ++ segment.2).flatten) = written (segments t).2 := by
    simp [written, List.flatMap]
  obtain ⟨-, htext⟩ := leftmost_segments t
  simp only [expand, pure_bind, String.toList_ofList]
  rw [List.mapM_pure, pure_bind, hpieces, ← htext]

/--
The segments of a text are those that are found from the left, one behind the
other.  Each is evaluated once, in their order and up to the first that fails,
and replaced by its result; the text between them stays as it is.
-/
theorem expand_leftmost (t : Text) :
    ∃ before rest, (Leftmost before rest ∧ t = before ++ written rest) ∧
      (∀ other more, Leftmost other more → t = other ++ written more →
        other = before ∧ more = rest) ∧
      (∀ literal ∈ before :: rest.map Prod.snd, Clear literal []) ∧
      (∀ {σ ε : Type} (evaluate : Evaluator σ ε) (state : σ) (seen : List Text),
        (∀ results after, Answers evaluate (rest.map Prod.fst) state results after →
          let filled := before ++ (fill results (rest.map Prod.snd)).flatten
          expand evaluate t state = (.ok filled, after) ∧
            expand (noting evaluate) t (seen, state) =
              (.ok filled, seen ++ rest.map Prod.fst, after)) ∧
        ∀ asked inner unasked results middle cause after,
          rest.map Prod.fst = asked ++ inner :: unasked →
          Answers evaluate asked state results middle →
          evaluate inner middle = (.error cause, after) →
          expand evaluate t state = (.error cause, after) ∧
            expand (noting evaluate) t (seen, state) =
              (.error cause, seen ++ asked ++ [inner], after)) ∧
      ∀ {m : Type → Type} [Monad m] [LawfulMonad m],
        expand (fun inner => pure (String.ofList (mark :: (inner ++ [mark])))) t =
          (pure t : m Text) := by
  obtain ⟨hleftmost, htext⟩ := leftmost_segments t
  refine ⟨(segments t).1, (segments t).2, ⟨hleftmost, htext⟩, ?_, hleftmost.clear_literals, ?_,
    expand_marked t⟩
  · intro other more hother hagain
    have hsegments := segments_of_leftmost hother
    rw [← hagain] at hsegments
    rw [hsegments]
    exact ⟨rfl, rfl⟩
  · intro σ ε evaluate state seen
    constructor
    · intro results after h
      exact ⟨expand_of_answers rfl h, expand_of_answers rfl (h.noting seen)⟩
    · intro asked inner unasked results middle cause after hrest h hfailure
      have hnoted : noting evaluate inner (seen ++ asked, middle) =
          (.error cause, seen ++ asked ++ [inner], after) := by
        simp [noting, hfailure]
      exact ⟨expand_of_failure rfl hrest h hfailure,
        expand_of_failure rfl hrest (h.noting seen) hnoted⟩

theorem expand_leftmost_doubled :
    let t := "x``y`z`1\n`w`v".toList
    let number : Evaluator Nat String := fun _ calls => (.ok (toString calls), calls + 1)
    let refuse : Evaluator Nat String := fun inner calls =>
      (if inner = ['w'] then .error "refused" else .ok "", calls + 1)
    Leftmost ['x'] [("`y".toList, "z`1\n".toList), (['w'], ['v'])] ∧
      expand number t 0 = (.ok "x0z`1\n1v".toList, 2) ∧
      expand (noting refuse) t ([], 0) = (.error "refused", ["`y".toList, ['w']], 2) := by
  intro t number refuse
  have hcut : Leftmost ['x'] [("`y".toList, "z`1\n".toList), (['w'], ['v'])] :=
    .segment (by decide) (by decide) (.segment (by decide) (by decide) (.last (by decide)))
  obtain ⟨before, rest, -, hunique, -, hevaluate, -⟩ := expand_leftmost t
  obtain ⟨rfl, rfl⟩ := hunique _ _ hcut (by decide)
  have hnumber := ((hevaluate number 0 []).1 ["0", "1"] 2 (.cons rfl (.cons rfl (.nil 2)))).1
  have hrefuse := ((hevaluate refuse 0 []).2 ["`y".toList] ['w'] [] [""] 1 "refused" 2 rfl
    (.cons rfl (.nil 1)) rfl).2
  exact ⟨hcut, hnumber, hrefuse⟩

end BraceTemplate.Backtick
