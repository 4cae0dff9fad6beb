import BraceTemplate.Text.Blank

/-!
# Runs of blanks

`collapse` makes one space of every run of two or more blanks.  `compact` drops
the blanks between the end of one tag of markup and the start of the next.
Both are folds from the end of the text, where what follows is done already.
-/

namespace BraceTemplate.Text

def collapseStep (c : Char) (rest : Text) : Text :=
  match rest with
  | next :: tail => if isBlank c && isBlank next then ' ' :: tail else c :: rest
  | [] => [c]

def collapse (t : Text) : Text := t.foldr collapseStep []

def compactStep (c : Char) (rest : Text) : Text :=
  if c == '>' then
    match rest.dropWhile isBlank with
    | '<' :: tail => c :: '<' :: tail
    | _ => c :: rest
  else c :: rest

def compact (t : Text) : Text := t.foldr compactStep []

end BraceTemplate.Text
