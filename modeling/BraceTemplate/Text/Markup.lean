import BraceTemplate.Text.Blank

/-!
# Markup in texts

A tag of markup starts with `<`, holds at least one character and ends with the
next `>`.  Characters that mean something in markup can be written as entities.
-/

namespace BraceTemplate.Text

/-- Drops the tag that ends after `piece`, a text without `>`; if none starts in it, `>` is kept. -/
def removeTagAt (piece : Text) : Text :=
  let before := piece.takeWhile (· != '<')
  if before.length + 2 ≤ piece.length then before else piece ++ ['>']

def removeTags (t : Text) : Text :=
  let pieces := fields (· == '>') t
  pieces.dropLast.flatMap removeTagAt ++ pieces.getLastD []

def entity (c : Char) : Text :=
  if c == '<' then ['&', 'l', 't', ';']
  else if c == '>' then ['&', 'g', 't', ';']
  else if c == '&' then ['&', 'a', 'm', 'p', ';']
  else if c == '\x22' then ['&', 'q', 'u', 'o', 't', ';']
  else if c == '\x27' then ['&', '#', '3', '9', ';']
  else if c == '/' then ['&', '#', 'x', '2', 'F', ';']
  else [c]

def encodeEntities (t : Text) : Text := t.flatMap entity

end BraceTemplate.Text
