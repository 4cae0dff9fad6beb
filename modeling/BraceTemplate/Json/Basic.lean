import BraceTemplate.Dictionary

/-!
# JSON documents

Objects keep their members sorted by name, one member for each name.
-/

namespace BraceTemplate

inductive Json where
  | null
  | bool (b : Bool)
  | integer (n : Int)
  | float (x : Float)
  | string (s : String)
  | array (items : List Json)
  | object (members : List (String × Json))
  deriving Inhabited

namespace Json

def insertMember (name : String) (value : Json) : Dictionary Json → Dictionary Json
  | [] => [(name, value)]
  | (other, otherValue) :: rest =>
      if name < other then (name, value) :: (other, otherValue) :: rest
      else if name = other then (name, value) :: rest
      else (other, otherValue) :: insertMember name value rest

/-- The object with the given members; of two members of one name the later counts. -/
def ofMembers (members : Dictionary Json) : Json :=
  .object (members.foldl (fun sorted (name, value) => insertMember name value sorted) [])

def member? (name : String) : Json → Option Json
  | .object members => Dictionary.find? members name
  | _ => none

end Json

end BraceTemplate
