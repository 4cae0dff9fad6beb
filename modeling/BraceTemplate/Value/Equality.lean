import BraceTemplate.Value.Basic

/-!
# Equality of values

Values are equal by content.  Numbers compare as numbers, so that no number
differs from itself and zeros are equal; host objects compare as the host says;
the order of a map's entries does not matter.
-/

namespace BraceTemplate.Value

variable {H : Type} [BEq H]

def equal : Value H → Value H → Bool
  | undefined, undefined | null, null => true
  | bool a, bool b => a == b
  | number x, number y => x == y
  | string s, string t => s == t
  | array xs, array ys =>
      xs.length == ys.length && (xs.zip ys).attach.all fun ⟨pair, _⟩ => equal pair.1 pair.2
  | map xs, map ys =>
      xs.length == ys.length && xs.attach.all fun ⟨entry, _⟩ =>
        (Dictionary.find? ys entry.1).any fun value => equal entry.2 value
  | iteration i, iteration j => i == j
  | object a, object b => a == b
  | _, _ => false
termination_by value => value
decreasing_by
  · have := List.sizeOf_lt_of_mem (List.of_mem_zip ‹_›).1
    simp only [Value.array.sizeOf_spec]
    omega
  · have := Dictionary.sizeOf_snd_lt ‹_›
    simp only [Value.map.sizeOf_spec]
    omega

instance : BEq (Value H) := ⟨equal⟩

end BraceTemplate.Value
