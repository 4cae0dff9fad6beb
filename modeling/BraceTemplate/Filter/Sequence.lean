import BraceTemplate.Filter.Measure

/-!
# Filters on sequences
-/

namespace BraceTemplate.Filter

variable {H : Type} [HostObject H]

def size : Filter H := fun value _ =>
  match value.length? with
  | some n => .ok (.ofIndex n)
  | none => .error (.invalidInput "size" "value has no length")

def reverse : Filter H := fun value _ =>
  match value with
  | .array items => .ok (.array items.reverse)
  | .string s => .ok (.string (Value.mapText List.reverse s))
  | _ => .error (.invalidInput "reverse" "expected a sequence or string")

def join : Filter H := fun value arguments => do
  let items ← arrayInput "join" value
  pure (.string ((arguments.headD ",").intercalate (items.map Value.display)))

def window (items : List (Value H)) (start count : Nat) : Value H :=
  .array ((items.drop start).take count)

def limit : Filter H := fun value arguments => do
  let items ← arrayInput "limit" value
  let count ← countArgument "limit" arguments 0
  let offset ← if 1 < arguments.length then countArgument "limit" arguments 1 else .ok 0
  pure (window items offset count)

def slice : Filter H := fun value arguments => do
  let items ← arrayInput "slice" value
  let start ← countArgument "slice" arguments 0
  let count ← if 1 < arguments.length then countArgument "slice" arguments 1 else .ok items.length
  pure (window items start count)

def sortKey (property : Option String) (item : Value H) : Option Measure :=
  match property with
  | some name => (item.child? name).bind Measure.ofValue?
  | none => Measure.ofValue? item

/-- Puts an item behind all that it is not less than, in a sorted list in reverse. -/
def insertBehind {α : Type} (less : α → α → Bool) (item : α) : List α → List α
  | [] => [item]
  | last :: before =>
      if less item last then last :: insertBehind less item before else item :: last :: before

def insertionSort {α : Type} (less : α → α → Bool) (items : List α) : List α :=
  (items.foldl (fun sorted item => insertBehind less item sorted) []).reverse

/--
Any stable sort will do where the comparison is an order of the items.  Where it is none,
as with texts between numbers, other sorts may give another order or fail.
-/
def sortItems (property : Option String) (items : List (Value H)) : List (Value H) :=
  (insertionSort (fun a b => Measure.compareForSort a.1 b.1 == .lt)
    (items.map fun item => (sortKey property item, item))).map Prod.snd

def sort : Filter H := fun value arguments => do
  let property := (arguments.head?.map (Value.mapText Text.trim)).filter (!·.isEmpty)
  let items ← arrayInput "sort" value
  pure (.array (sortItems property items))

def first : Filter H := fun value _ =>
  match value with
  | .iteration i => .ok (.bool i.isFirst)
  | .array items => .ok (items.headD .undefined)
  | _ => .error (.invalidInput "first" "expected loop metadata or a sequence")

def last : Filter H := fun value _ =>
  match value with
  | .iteration i => .ok (.bool i.isLast)
  | .array items => .ok (items.getLastD .undefined)
  | _ => .error (.invalidInput "last" "expected loop metadata or a sequence")

def propertyEquals (property expected : String) (item : Value H) : Bool :=
  (item.child? property).any fun value => value.display == expected

def has : Filter H := fun value arguments => do
  let property ← argument "has" arguments 0
  let expected ← argument "has" arguments 1
  let items ← arrayInput "has" value
  pure (.bool (items.any (propertyEquals property expected)))

def sift : Filter H := fun value arguments => do
  let property ← argument "sift" arguments 0
  let expected ← argument "sift" arguments 1
  let items ← arrayInput "sift" value
  pure (.array (items.filter (propertyEquals property expected)))

end BraceTemplate.Filter
