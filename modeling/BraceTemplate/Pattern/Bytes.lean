/-!
# Characters as bytes

A range of characters is a set of byte sequences.  `byteSequences` gives it as
few sequences of byte ranges, in order: the bytes of a sequence may be chosen
independently, each from its range.
-/

namespace BraceTemplate.Pattern

structure ByteRange where
  first : Nat
  last : Nat
  deriving DecidableEq, Repr

/--
The sequences of one leading byte, of which `mark` is the fixed part, and `more`
bytes that carry six bits each, for the numbers from `first` to `last`.
-/
def sequencesOfLength : (more mark first last : Nat) → List (List ByteRange)
  | 0, mark, first, last => [[⟨mark + first, mark + last⟩]]
  | more + 1, mark, first, last =>
      let block := Nat.pow 64 (more + 1)
      let lead := fun (low high : Nat) (rest : List (List ByteRange)) =>
        rest.map (⟨mark + low, mark + high⟩ :: ·)
      let behind := sequencesOfLength more 0x80
      let low := first / block
      let high := last / block
      if low = high then lead low high (behind (first % block) (last % block))
      else
        let wholeLow := if first % block = 0 then low else low + 1
        let wholeEnd := if last % block + 1 = block then high + 1 else high
        (if wholeLow = low then [] else lead low low (behind (first % block) (block - 1))) ++
          (if wholeLow < wholeEnd then lead wholeLow (wholeEnd - 1) (behind 0 (block - 1)) else []) ++
          (if wholeEnd = high then lead high high (behind 0 (last % block)) else [])

def byteLengths : List (Nat × Nat × Nat × Nat) :=
  [(0, 0, 0, 0x7F), (1, 0xC0, 0x80, 0x7FF), (2, 0xE0, 0x800, 0xFFFF),
    (3, 0xF0, 0x10000, 0x10FFFF)]

def byteSequences (first last : Nat) : List (List ByteRange) :=
  byteLengths.flatMap fun (more, mark, least, most) =>
    let low := max first least
    let high := min last most
    if low ≤ high then sequencesOfLength more mark low high else []

end BraceTemplate.Pattern
