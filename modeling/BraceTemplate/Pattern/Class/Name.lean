import BraceTemplate.Pattern.Class.Break

/-!
# Classes of characters by name

A class is named by a property, a category or a script, or by a property and
its value.  Case, spaces, hyphens, underscores and a leading `is` do not count
in names, and neither do characters that are not basic.
-/

namespace BraceTemplate.Pattern.Class

open Text

def startsWithIs (t : Text) : Bool := (t.take 2).map Char.toLower == ['i', 's']

/-- Drops what does not count in a name; but `isc` names something else than `c`. -/
def normalizeName (t : Text) : Text :=
  let counted := fun (c : Char) => c.toNat < 0x80 && !(c == ' ' || c == '_' || c == '-')
  if startsWithIs t then
    let bare := ((t.drop 2).filter counted).map Char.toLower
    if bare == ['c'] then ['i', 's', 'c'] else bare
  else (t.filter counted).map Char.toLower

def scriptCode? (name : Text) : Option Text :=
  (formerCodes.find? (·.long == name)).elim
    ((scriptNames.find? fun script =>
      normalizeName script.long == name || normalizeName script.code == name).map (·.code))
    fun former => some former.code

def edition? (name : Text) : Option Text :=
  knownEditions.find? fun edition =>
    normalizeName edition == name ||
      (edition.drop 1).map (fun c => if c == '_' then '.' else c) == name

def named? (t : Text) : Option CodeSet :=
  let name := normalizeName t
  let text := String.ofList name
  (ofPropertyName? text).or ((ofCategoryName? text).or ((scriptCode? name).map scriptSet))

def ofValue? (property value : Text) : Option CodeSet :=
  let property := String.ofList (normalizeName property)
  let value := normalizeName value
  let text := String.ofList value
  if property = "generalcategory" || property = "gc" then ofCategoryName? text
  else if property = "script" || property = "sc" then (scriptCode? value).map scriptSet
  else if property = "scriptextensions" || property = "scx" then
    (scriptCode? value).map extendedScriptSet
  else if property = "age" then (edition? value).map upTo
  else if property = "graphemeclusterbreak" || property = "gcb" then
    ofValueName? clusterBreaks text
  else if property = "wordbreak" || property = "wb" then ofValueName? wordBreaks text
  else if property = "sentencebreak" || property = "sb" then ofValueName? sentenceBreaks text
  else none

/-! ## Classes of basic characters -/

def basic (test : Char → Bool) : CodeSet :=
  .ofIncreasing ((List.range 128).filter fun code => test (Char.ofNat code))

def basicNamed? (name : String) : Option CodeSet :=
  let graphic := fun (c : Char) => 0x21 ≤ c.toNat && c.toNat ≤ 0x7E
  if name = "alnum" then some (basic Char.isAlphanum)
  else if name = "alpha" then some (basic Char.isAlpha)
  else if name = "ascii" then some (basic fun _ => true)
  else if name = "blank" then some (basic fun c => c == ' ' || c == '\t')
  else if name = "cntrl" then some (basic fun c => c.toNat < 0x20 || c.toNat == 0x7F)
  else if name = "digit" then some (basic Char.isDigit)
  else if name = "graph" then some (basic graphic)
  else if name = "lower" then some (basic Char.isLower)
  else if name = "print" then some (basic fun c => c == ' ' || graphic c)
  else if name = "punct" then some (basic fun c => graphic c && !c.isAlphanum)
  else if name = "space" then some (basic isBlank)
  else if name = "upper" then some (basic Char.isUpper)
  else if name = "word" then some (basic fun c => c.isAlphanum || c == '_')
  else if name = "xdigit" then some (basic fun c => (hexDigit? c).isSome)
  else none

end BraceTemplate.Pattern.Class
