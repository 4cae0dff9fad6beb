/-!
# Blank characters, trimming and words

A text is a list of characters.  The blank characters are those of the Unicode
property White_Space; every rule about surrounding or separating space in this
library goes through `isBlank`.
-/

namespace BraceTemplate

abbrev Text := List Char

namespace Text

/-- The Unicode property White_Space. -/
def isBlank (c : Char) : Bool :=
  let code := c.toNat
  (0x9 ≤ code && code ≤ 0xD) || code == 0x20 || code == 0x85 || code == 0xA0 ||
    code == 0x1680 || (0x2000 ≤ code && code ≤ 0x200A) || code == 0x2028 ||
    code == 0x2029 || code == 0x202F || code == 0x205F || code == 0x3000

def trimStart (t : Text) : Text := t.dropWhile isBlank

def trimEnd (t : Text) : Text := (t.reverse.dropWhile isBlank).reverse

def trim (t : Text) : Text := trimEnd (trimStart t)

/-- The pieces between the characters that satisfy `isSeparator`; there is always one. -/
def fields (isSeparator : Char → Bool) (t : Text) : List Text :=
  t.foldr
    (fun c pieces =>
      if isSeparator c then [] :: pieces
      else match pieces with
        | [] => [[c]]
        | piece :: rest => (c :: piece) :: rest)
    [[]]

def words (t : Text) : List Text := (fields isBlank t).filter (!·.isEmpty)

@[simp] theorem fields_nil (isSeparator : Char → Bool) : fields isSeparator [] = [[]] := rfl

theorem fields_ne_nil (isSeparator : Char → Bool) (t : Text) : fields isSeparator t ≠ [] := by
  cases t with
  | nil => simp
  | cons c rest =>
      simp only [fields, List.foldr_cons]
      split
      · simp
      · split <;> simp

def utf8Size (t : Text) : Nat := t.foldr (fun c size => c.utf8Size + size) 0

theorem utf8Size_append (t u : Text) : utf8Size (t ++ u) = utf8Size t + utf8Size u := by
  induction t with
  | nil => simp [utf8Size]
  | cons c t ih =>
      simp only [utf8Size, List.cons_append, List.foldr_cons] at ih ⊢
      omega

end Text

end BraceTemplate
