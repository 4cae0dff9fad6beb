import BraceTemplate.Text.Blank

/-!
# Cutting and splitting texts

`cut?` cuts a text at the first occurrence of a separator; splitting and
replacing repeat the cut on what follows.  An empty separator stands before
every character and at the end.
-/

namespace BraceTemplate.Text

/-- Looks for `separator`, having read `seen` (in reverse). -/
def cutFrom (separator seen : Text) : Text → Option (Text × Text)
  | [] => if separator.isEmpty then some (seen.reverse, []) else none
  | c :: rest =>
      if separator.isPrefixOf (c :: rest) then
        some (seen.reverse, (c :: rest).drop separator.length)
      else cutFrom separator (c :: seen) rest

def cut? (separator t : Text) : Option (Text × Text) := cutFrom separator [] t

theorem length_of_cutFrom {first : Char} {separator seen t before after : Text}
    (h : cutFrom (first :: separator) seen t = some (before, after)) :
    after.length < t.length := by
  induction t generalizing seen with
  | nil => simp [cutFrom] at h
  | cons c rest ih =>
      simp only [cutFrom] at h
      split at h
      · simp only [Option.some.injEq, Prod.mk.injEq] at h
        obtain ⟨-, rfl⟩ := h
        simp only [List.length_drop, List.length_cons]
        omega
      · have := ih h
        simp only [List.length_cons]
        omega

theorem length_of_cut? {first : Char} {separator t before after : Text}
    (h : cut? (first :: separator) t = some (before, after)) :
    after.length < t.length :=
  length_of_cutFrom h

/--
The pieces of `t` between the occurrences of `first :: separator`, behind `pieces` (in
reverse).
-/
def splitOnto (first : Char) (separator : Text) (pieces : List Text) (t : Text) : List Text :=
  match _h : cut? (first :: separator) t with
  | none => (t :: pieces).reverse
  | some (piece, rest) => splitOnto first separator (piece :: pieces) rest
termination_by t.length
decreasing_by exact length_of_cut? _h

/--
The pieces of `t` between the occurrences of `separator`, found from the left without
overlap.
-/
def split (separator t : Text) : List Text :=
  match separator with
  | [] => [] :: (t.map fun c => [c]) ++ [[]]
  | first :: rest => splitOnto first rest [] t

def join (separator : Text) : List Text → Text
  | [] => []
  | piece :: pieces => piece ++ pieces.flatMap (separator ++ ·)

def replace (old new t : Text) : Text := join new (split old t)

end BraceTemplate.Text
