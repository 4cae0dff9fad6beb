import BraceTemplate.Template.Tag

/-!
# Extents of blocks

An opener is paired with the first closer of its token at which as many closers
as openers of that token have been read.  Where the counts never meet it is
paired with the last closer.
-/

namespace BraceTemplate

structure Extent where
  opener : Nat
  closer : Nat
  deriving DecidableEq, Repr

/-- Position of the closer that ends a block, with `depth` openers of the token not closed yet. -/
def findCloser? (token : Text) (depth : Nat) : List Tag → Option Nat
  | [] => none
  | tag :: rest =>
      if tag.closes token then
        if depth ≤ 1 then some 0
        else some ((findCloser? token (depth - 1) rest).elim 0 (· + 1))
      else if tag.opens token then (findCloser? token (depth + 1) rest).map (· + 1)
      else (findCloser? token depth rest).map (· + 1)

def matchBlock? (token : Text) (tags : List Tag) : Option Extent :=
  match tags.findIdx? (Tag.opens token) with
  | none => none
  | some opener =>
      (findCloser? token 1 (tags.drop (opener + 1))).map fun distance =>
        ⟨opener, opener + 1 + distance⟩

end BraceTemplate
