import BraceTemplate.Filter.Basic
import BraceTemplate.Text.Markup
import BraceTemplate.Text.Percent
import BraceTemplate.Text.Spacing
import BraceTemplate.Text.Split

/-!
# Filters on text
-/

namespace BraceTemplate.Filter

variable {H : Type} [HostObject H]

def upcase : Filter H := onText "upcase" Text.toUpper

def downcase : Filter H := onText "downcase" Text.toLower

def trim : Filter H := onText "trim" Text.trim

def pack : Filter H := onText "pack" fun t => Text.collapse t.trim

def clean : Filter H := onText "clean" Text.removeTags

def sanitize : Filter H := onText "sanitize" Text.encodeEntities

def url : Filter H := onText "url" Text.percentEncode

def capitalize (t : Text) : Text :=
  (t.foldl
    (fun (state : Bool × List Text) c =>
      let form := if !state.1 && Text.isAlphanumeric c then Text.upperForm c else [c]
      (Text.isAlphanumeric c || c == '_', form :: state.2))
    (false, [])).2.reverse.flatten

def capcase : Filter H := onText "capcase" capitalize

def ellipsis : String := "..."

def chop : Filter H := fun value arguments => do
  let s ← textInput "chop" value
  let count ← countArgument "chop" arguments 0
  if count < s.length then pure (.string (String.ofList (s.toList.take count) ++ ellipsis))
  else pure (.string s)

def tease : Filter H := fun value arguments => do
  let s ← textInput "tease" value
  let count ← countArgument "tease" arguments 0
  let words := Text.words s.toList
  if count < words.length then
    pure (.string (" ".intercalate ((words.take count).map String.ofList) ++ ellipsis))
  else pure (.string s)

def style : Filter H := fun value arguments => do
  let classes ← argument "style" arguments 0
  let s ← textInput "style" value
  pure (.string ("<span class=\"" ++ classes ++ "\">" ++ s ++ "</span>"))

def split : Filter H := fun value arguments => do
  let s ← textInput "split" value
  let separator := arguments.headD ","
  pure (.array ((Text.split separator.toList s.toList).map fun piece => .string (String.ofList piece)))

/-- The greatest size in bytes of a repeated text. -/
def maxRepeated : Nat := 1024 * 1024

def checkedProduct? (a b : Nat) : Option Nat :=
  if a * b < Nat.pow 2 64 then some (a * b) else none

def repeatCount (arguments : List String) : Except FilterError Nat :=
  if arguments.isEmpty then .ok 2 else countArgument "repeat" arguments 0

def repeatText : Filter H := fun value arguments => do
  let s ← textInput "repeat" value
  let count ← repeatCount arguments
  let separator := arguments.getD 1 ""
  let size? := checkedProduct? (max (s.utf8ByteSize + separator.utf8ByteSize) 1) count
  if size?.any (· ≤ maxRepeated) then
    pure (.string (separator.intercalate (List.replicate count s)))
  else
    .error (.invalidArgument "repeat" (arguments.headD "")
      ("output would exceed " ++ toString maxRepeated ++ " bytes"))

end BraceTemplate.Filter
