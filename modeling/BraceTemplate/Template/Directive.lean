import BraceTemplate.Template.Tag

/-!
# Directives

The expression of a tag is a path and a chain of steps between bars, behind the
word `if` for a condition.  A step is the name of a filter and its arguments.
Path and names are trimmed; arguments are kept as they are written.
-/

namespace BraceTemplate

structure Step where
  name : String
  arguments : List String
  deriving DecidableEq, Repr

structure Directive where
  conditional : Bool
  path : String
  chain : List Step
  selfClosing : Bool
  deriving DecidableEq, Repr

inductive PathKind where
  | counter | self | property
  deriving DecidableEq, Repr

namespace Step

/-- Reads a step; one without a name is no step. -/
def read? (delimiter part : Text) : Option Step :=
  match Text.split delimiter part with
  | [] => none
  | name :: arguments =>
      if name.trim.isEmpty then none
      else some ⟨String.ofList name.trim, arguments.map String.ofList⟩

end Step

namespace Directive

def escapedSign : Text := ['&', 'g', 't', ';']

def read (delimiter body : Text) (selfClosing : Bool) : Directive :=
  let body := Text.replace escapedSign ['>'] body
  let conditional := isConditional body
  let expression := if conditional then body.trimStart.drop 2 else body
  let parts := Text.fields (· == '|') expression
  { conditional
    path := String.ofList (Text.trim (parts.headD []))
    chain := (parts.drop 1).filterMap (Step.read? delimiter)
    selfClosing }

def pathKind (d : Directive) : PathKind :=
  if d.path = "." then .self
  else if d.path = "#" ∨ d.path = "##" then .counter
  else .property

end Directive

end BraceTemplate
