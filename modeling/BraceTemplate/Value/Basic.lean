import BraceTemplate.Error
import BraceTemplate.Json.Writer
import BraceTemplate.Number.Reader

/-!
# Values

Templates are rendered against values.  Besides plain data there are the
position in a loop and host objects, whose type `H` is a parameter and whose
behaviour is given by `HostObject`.  `undefined` stands for what is not bound.
-/

namespace BraceTemplate

/--
Where a loop is: the index of the element, the count of elements, and whether positions
count from one.
-/
structure Iteration where
  index : Nat
  size : Nat
  oneBased : Bool
  deriving DecidableEq, Repr

namespace Iteration

def start (index size : Nat) : Iteration := ⟨index, size, false⟩

/-- Counts from one for a sign with two or more marks. -/
def withSign (i : Iteration) (sign : String) : Iteration :=
  { i with oneBased := decide (2 ≤ sign.toList.count '#') }

def isFirst (i : Iteration) : Bool := i.index == 0

def isLast (i : Iteration) : Bool := i.index + 1 == i.size

def position (i : Iteration) : Nat := if i.oneBased then i.index + 1 else i.index

end Iteration

inductive Value (H : Type) where
  | undefined
  | null
  | bool (b : Bool)
  | number (x : Float)
  | string (s : String)
  | array (items : List (Value H))
  | map (entries : List (String × Value H))
  | iteration (i : Iteration)
  | object (host : H)

class HostObject (H : Type) where
  typeName : H → String
  call : H → String → List String → Except FilterError (Value H)
  property : H → String → Option (Value H) := fun _ _ => none
  display : H → String := fun host => "[" ++ typeName host ++ "]"

instance : HostObject Empty where
  typeName := Empty.elim
  call := fun host => host.elim

namespace Value

variable {H : Type}

instance : Inhabited (Value H) := ⟨undefined⟩

def ofIndex (n : Nat) : Value H := .number (Float.ofNat n)

def isUndefined : Value H → Bool
  | undefined => true
  | _ => false

/-- Only the boolean itself, not what is merely empty. -/
def isFalse : Value H → Bool
  | bool false => true
  | _ => false

def isTruthy : Value H → Bool
  | undefined | null => false
  | bool b => b
  | number x => !(x == 0.0) && x == x
  | string s => !s.isEmpty
  | array items => !items.isEmpty
  | map _ | iteration _ | object _ => true

def asNumber? : Value H → Option Float
  | number x => some x
  | bool b => some (if b then 1.0 else 0.0)
  | string s => readNumber? (Text.trim s.toList)
  | iteration i => some (Float.ofNat i.position)
  | _ => none

def asString? : Value H → Option String
  | string s => some s
  | _ => none

def asArray? : Value H → Option (List (Value H))
  | array items => some items
  | _ => none

def length? : Value H → Option Nat
  | string s => some s.length
  | array items => some items.length
  | map entries => some entries.length
  | iteration i => some i.size
  | _ => none

def child? [HostObject H] (value : Value H) (segment : String) : Option (Value H) :=
  match value with
  | map entries => Dictionary.find? entries segment
  | array items => (readIndex? segment.toList).bind fun index => items[index]?
  | object host => HostObject.property host segment
  | iteration i =>
      if segment = "index" then some (ofIndex i.index)
      else if segment = "size" then some (ofIndex i.size)
      else if segment = "first" then some (.bool i.isFirst)
      else if segment = "last" then some (.bool i.isLast)
      else none
  | _ => none

end Value

end BraceTemplate
