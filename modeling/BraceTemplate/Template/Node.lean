import BraceTemplate.Template.Extent

/-!
# Template trees

A template is a list of nodes: literal text, separators, directives and blocks.
A block owns the nodes between its tags, so that the separators at its top
level are its own.

An opener whose token is not closed after it in the whole document is a plain
directive; this is known before its block is looked for.
-/

namespace BraceTemplate

structure Opening where
  tag : Tag
  body : Text
  selfClosing : Bool
  deriving DecidableEq, Repr

inductive Node where
  | literal (text : Text)
  | separator (tag : Tag)
  | directive (opening : Opening)
  | block (opening : Opening) (token : Text) (children : List Node) (separatorIndex : Option Nat)

namespace Node

def isSeparator : Node → Bool
  | separator _ => true
  | _ => false

def ofLiteral (t : Text) : List Node := if t.isEmpty then [] else [literal t]

def separatorIndexOf (body : Text) (children : List Node) : Option Nat :=
  if isConditional body then children.findIdx? isSeparator else none

end Node

def thenBranch (children : List Node) (separatorIndex : Option Nat) : List Node :=
  match separatorIndex with
  | some index => children.take index
  | none => children

def elseBranch (children : List Node) (separatorIndex : Option Nat) : List Node :=
  match separatorIndex with
  | some index => (children.drop (index + 1)).takeWhile (!·.isSeparator)
  | none => []

abbrev LastClosers := List (Text × Nat)

namespace LastClosers

def ofTags (tags : List Tag) : LastClosers :=
  (tags.zipIdx.filterMap fun (tag, index) =>
    match tag.kind with
    | .closer name => some (name, index)
    | _ => none).reverse

def find? (closers : LastClosers) (name : Text) : Option Nat := closers.lookup name

end LastClosers

/--
Position among `rest` of the tag that closes the block opened by `opener`, the
tag at `position` of the document.  Only the tags up to the last closer of the
token are searched.
-/
def closerAmong? (closers : LastClosers) (position : Nat) (opener : Tag)
    (rest : List (Text × Tag)) : Option Nat :=
  match opener.openingToken? with
  | none => none
  | some token =>
      match closers.find? token with
      | none => none
      | some last =>
          if last ≤ position then none
          else
            let searched := (rest.take (last - position)).map Prod.snd
            (matchBlock? token (opener :: searched)).map (·.closer - 1)

def nodesOfTags (closers : LastClosers) (position : Nat) (tagged : List (Text × Tag))
    (tail : Text) : List Node :=
  match tagged with
  | [] => Node.ofLiteral tail
  | (before, tag) :: rest =>
      Node.ofLiteral before ++
        match tag.kind with
        | .separator => .separator tag :: nodesOfTags closers (position + 1) rest tail
        | .closer _ =>
            .directive ⟨tag, tag.inner, false⟩ :: nodesOfTags closers (position + 1) rest tail
        | .expression body selfClosing =>
            let opening : Opening := ⟨tag, body, selfClosing⟩
            match closerAmong? closers position tag rest with
            | none => .directive opening :: nodesOfTags closers (position + 1) rest tail
            | some distance =>
                match _h : rest.drop distance with
                | [] => .directive opening :: nodesOfTags closers (position + 1) rest tail
                | (last, _) :: after =>
                    let children := nodesOfTags closers (position + 1) (rest.take distance) last
                    .block opening (blockToken body) children
                      (Node.separatorIndexOf body children) ::
                      nodesOfTags closers (position + distance + 2) after tail
termination_by tagged.length
decreasing_by
  all_goals simp only [List.length_cons, List.length_take]
  all_goals first
    | omega
    | (replace _h := congrArg List.length _h
       simp only [List.length_drop, List.length_cons] at _h
       omega)

def parseTemplate (t : Text) : List Node :=
  let scan := Scan.ofText t
  nodesOfTags (.ofTags scan.tags) 0 scan.tagged scan.rest

end BraceTemplate
