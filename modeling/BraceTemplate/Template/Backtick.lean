import BraceTemplate.Text.Blank

/-!
# Expressions between backticks

Inside an expression a text between backticks is an expression of its own,
replaced by its result.  It holds at least one character and no line feed, and
ends at the first backtick after its first character.
-/

namespace BraceTemplate.Backtick

def mark : Char := '\x60'

def segment? : Text → Option (Text × Text)
  | [] => none
  | first :: rest =>
      if first == '\n' then none
      else
        let more := rest.takeWhile fun c => c != mark && c != '\n'
        match rest.drop more.length with
        | [] => none
        | last :: after => if last == mark then some (first :: more, after) else none

/-- The first segment, behind what was read (in reverse). -/
def nextFrom (seen : Text) : Text → Option (Text × Text × Text)
  | [] => none
  | c :: rest =>
      if c == mark then
        match segment? rest with
        | some (inner, after) => some (seen.reverse, inner, after)
        | none => nextFrom (c :: seen) rest
      else nextFrom (c :: seen) rest

theorem length_of_segment? {t inner after : Text} (h : segment? t = some (inner, after)) :
    after.length < t.length := by
  cases t with
  | nil => simp [segment?] at h
  | cons first rest =>
      simp only [segment?] at h
      split at h
      · simp at h
      · split at h
        · simp at h
        · rename_i last tail hdrop
          have hlength := congrArg List.length hdrop
          simp only [List.length_drop, List.length_cons] at hlength
          split at h
          · simp only [Option.some.injEq, Prod.mk.injEq] at h
            obtain ⟨-, rfl⟩ := h
            simp only [List.length_cons]
            omega
          · simp at h

theorem length_of_nextFrom {seen t before inner after : Text}
    (h : nextFrom seen t = some (before, inner, after)) : after.length < t.length := by
  induction t generalizing seen with
  | nil => simp [nextFrom] at h
  | cons c rest ih =>
      simp only [nextFrom] at h
      split at h
      · split at h
        · rename_i hsegment
          simp only [Option.some.injEq, Prod.mk.injEq] at h
          obtain ⟨-, -, rfl⟩ := h
          have := length_of_segment? hsegment
          simp only [List.length_cons]
          omega
        · have := ih h
          simp only [List.length_cons]
          omega
      · have := ih h
        simp only [List.length_cons]
        omega

def segments (t : Text) : Text × List (Text × Text) :=
  match _h : nextFrom [] t with
  | none => (t, [])
  | some (before, inner, after) =>
      let (next, more) := segments after
      (before, (inner, next) :: more)
termination_by t.length
decreasing_by exact length_of_nextFrom _h

def expand {m : Type → Type} [Monad m] (evaluate : Text → m String) (t : Text) : m Text := do
  let (before, rest) := segments t
  let pieces ← rest.mapM fun (inner, after) => do return (← evaluate inner).toList ++ after
  return before ++ pieces.flatten

end BraceTemplate.Backtick
