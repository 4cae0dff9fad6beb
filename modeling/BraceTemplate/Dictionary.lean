/-!
# Dictionaries

A dictionary lists its entries in the order in which their names first
appeared.  Writing a name that is present replaces its entry in place.
-/

namespace BraceTemplate

abbrev Dictionary (α : Type) := List (String × α)

namespace Dictionary

variable {α : Type}

def find? (d : Dictionary α) (name : String) : Option α := d.lookup name

def insert (d : Dictionary α) (name : String) (value : α) : Dictionary α :=
  match d with
  | [] => [(name, value)]
  | (other, otherValue) :: rest =>
      if other = name then (name, value) :: rest
      else (other, otherValue) :: Dictionary.insert rest name value

def merge (d other : Dictionary α) : Dictionary α :=
  other.foldl (fun merged entry => merged.insert entry.1 entry.2) d

def ofList (entries : List (String × α)) : Dictionary α := merge [] entries

def names (d : Dictionary α) : List String := d.map Prod.fst

def contains (d : Dictionary α) (name : String) : Bool := (d.find? name).isSome

@[simp] theorem find?_nil (name : String) : find? ([] : Dictionary α) name = none := rfl

theorem find?_cons (name other : String) (value : α) (d : Dictionary α) :
    find? ((other, value) :: d) name = if name = other then some value else find? d name := by
  by_cases h : name = other
  · simp [find?, h]
  · have hb : (name == other) = false := by simpa using h
    simp [find?, List.lookup_cons, h, hb]

theorem find?_insert (d : Dictionary α) (name other : String) (value : α) :
    (d.insert name value).find? other = if other = name then some value else d.find? other := by
  induction d with
  | nil => simp [insert, find?_cons]
  | cons entry rest ih =>
      obtain ⟨key, old⟩ := entry
      by_cases h : key = name
      · subst h
        by_cases hk : other = key <;> simp [insert, find?_cons, hk]
      · simp only [insert, h, if_false, find?_cons, ih]
        by_cases hk : other = key
        · simp [hk, h]
        · simp [hk]

theorem sizeOf_snd_lt [SizeOf α] {entries : List (String × α)} {entry : String × α}
    (h : entry ∈ entries) : sizeOf entry.2 < sizeOf entries := by
  have := List.sizeOf_lt_of_mem h
  obtain ⟨name, value⟩ := entry
  simp only [Prod.mk.sizeOf_spec] at this ⊢
  omega

end Dictionary

end BraceTemplate
