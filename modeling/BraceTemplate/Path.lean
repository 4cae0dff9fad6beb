import BraceTemplate.Text.Split
import BraceTemplate.Value.Basic

/-!
# Paths

A path is a list of segments between dots.  The first segment picks a root: the
part of the context of that name, else the captured value, else the global.
The other segments lead down from that root only.  A single dot is the context
itself.
-/

namespace BraceTemplate

namespace Path

variable {H : Type} [HostObject H]

def root? (captures globals : Dictionary (Value H)) (context : Value H) (name : String) :
    Option (Value H) :=
  ((context.child? name).or (captures.find? name)).or (globals.find? name)

def descend? (value : Value H) (segments : List String) : Option (Value H) :=
  segments.foldlM (fun value segment => value.child? segment) value

def segments (path : String) : List String :=
  (Text.fields (· == '.') path.toList).map String.ofList

def resolve? (captures globals : Dictionary (Value H)) (path : String) (context : Value H) :
    Option (Value H) :=
  if path = "." then some context
  else match segments path with
    | [] => none
    | first :: rest =>
        if first.isEmpty then none
        else (root? captures globals context first).bind fun value => descend? value rest

end Path

end BraceTemplate
