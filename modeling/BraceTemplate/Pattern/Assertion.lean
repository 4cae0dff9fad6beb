import BraceTemplate.Pattern.Class.Property

/-!
# Assertions

Conditions on a place in the text that look at the characters before and after
it and read none.
-/

namespace BraceTemplate

/-- How a place lies between the words of a text; halves look at one side only. -/
inductive WordPlace where
  | boundary | noBoundary | start | finish | startHalf | finishHalf
  deriving DecidableEq, Repr

inductive Assertion where
  | textStart
  | textEnd
  | lineStart
  | lineEnd
  /-- A line may also end with a carriage return, alone or before a line feed. -/
  | anyLineStart
  | anyLineEnd
  /-- Words consist of all word characters or, if `basic`, of the basic ones among them. -/
  | word (place : WordPlace) (basic : Bool)
  deriving DecidableEq, Repr

namespace Assertion

def isWordCharacter (basic : Bool) (c : Char) : Bool :=
  if basic then c.isAlphanum || c == '_' else Pattern.Class.wordCharacters.contains c.toNat

def holdsAtWord (place : WordPlace) (wordBefore wordAfter : Bool) : Bool :=
  match place with
  | .boundary => wordBefore != wordAfter
  | .noBoundary => wordBefore == wordAfter
  | .start => !wordBefore && wordAfter
  | .finish => wordBefore && !wordAfter
  | .startHalf => !wordBefore
  | .finishHalf => !wordAfter

def holds (a : Assertion) (before after : Option Char) : Bool :=
  match a with
  | .textStart => before.isNone
  | .textEnd => after.isNone
  | .lineStart => before.all (· == '\n')
  | .lineEnd => after.all (· == '\n')
  | .anyLineStart => before.all (· == '\n') || (before == some '\r' && after != some '\n')
  | .anyLineEnd => after.all (· == '\r') || (after == some '\n' && before != some '\r')
  | .word place basic =>
      holdsAtWord place (before.any (isWordCharacter basic)) (after.any (isWordCharacter basic))

end Assertion

end BraceTemplate
