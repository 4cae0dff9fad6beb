import BraceTemplate.Text.Split

/-!
# Tags

A tag is a pair of double braces around at least one character; it ends at the
first closing pair after that character.  Scanning cuts a text into tags, each
with the text before it, and the text after the last one.
-/

namespace BraceTemplate

structure Tag where
  inner : Text
  deriving DecidableEq, Repr

inductive TagKind where
  /-- The word `else`, which separates branches. -/
  | separator
  /-- A slash and a name: closes the block opened under the name. -/
  | closer (name : Text)
  /-- Anything else; a slash at its end says that it opens no block. -/
  | expression (body : Text) (selfClosing : Bool)
  deriving DecidableEq, Repr

def isConditional (body : Text) : Bool :=
  match body.trimStart with
  | 'i' :: 'f' :: c :: _ => Text.isBlank c
  | _ => false

/--
The token under which an expression opens a block: `if` for every condition,
and otherwise the path as it is written.
-/
def blockToken (body : Text) : Text :=
  if isConditional body then ['i', 'f']
  else Text.trim ((Text.fields (· == '|') body).headD [])

namespace Tag

def opening : Text := ['{', '{']

def closing : Text := ['}', '}']

def text (tag : Tag) : Text := opening ++ tag.inner ++ closing

def kind (tag : Tag) : TagKind :=
  let trimmed := tag.inner.trim
  if trimmed = ['e', 'l', 's', 'e'] then .separator
  else match trimmed with
    | '/' :: name => .closer (Text.trim name)
    | _ =>
        if tag.inner.getLast? = some '/' then .expression tag.inner.dropLast true
        else .expression tag.inner false

def openingToken? (tag : Tag) : Option Text :=
  match tag.kind with
  | .expression body false => some (blockToken body)
  | _ => none

def opens (token : Text) (tag : Tag) : Bool := tag.openingToken? == some token

def closes (token : Text) (tag : Tag) : Bool := tag.kind == .closer token

def next? (t : Text) : Option (Text × Tag × Text) :=
  match Text.cut? opening t with
  | none => none
  | some (_, []) => none
  | some (before, first :: rest) =>
      match Text.cut? closing rest with
      | none => none
      | some (inner, after) => some (before, ⟨first :: inner⟩, after)

theorem length_of_next? {t before after : Text} {tag : Tag}
    (h : next? t = some (before, tag, after)) : after.length < t.length := by
  unfold next? at h
  split at h
  · simp at h
  · simp at h
  · rename_i first rest hcut
    split at h
    · simp at h
    · rename_i inner tail hclose
      simp only [Option.some.injEq, Prod.mk.injEq] at h
      obtain ⟨-, -, rfl⟩ := h
      have := Text.length_of_cut? hcut
      have := Text.length_of_cut? hclose
      simp only [List.length_cons] at *
      omega

end Tag

structure Scan where
  /-- The tags in order, each with the text between it and the one before. -/
  tagged : List (Text × Tag)
  /-- The text after the last tag. -/
  rest : Text
  deriving DecidableEq, Repr

namespace Scan

/-- Scans `t` behind what has been scanned already (in reverse). -/
def scanOnto (tagged : List (Text × Tag)) (t : Text) : Scan :=
  match _h : Tag.next? t with
  | none => ⟨tagged.reverse, t⟩
  | some (before, tag, after) => scanOnto ((before, tag) :: tagged) after
termination_by t.length
decreasing_by exact Tag.length_of_next? _h

def ofText (t : Text) : Scan := scanOnto [] t

def tags (s : Scan) : List Tag := s.tagged.map Prod.snd

def text (s : Scan) : Text :=
  (s.tagged.flatMap fun (before, tag) => before ++ tag.text) ++ s.rest

/-- The byte offsets in UTF-8 at which the tags start and end. -/
def offsets (s : Scan) : List (Nat × Nat) :=
  (s.tagged.foldl
    (fun (state : Nat × List (Nat × Nat)) entry =>
      let start := state.1 + entry.1.utf8Size
      let stop := start + entry.2.text.utf8Size
      (stop, (start, stop) :: state.2))
    (0, [])).2.reverse

end Scan

end BraceTemplate
