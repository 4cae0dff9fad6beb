import BraceTemplate.Toml.Writer

/-!
# TOML libraries

Configurations and contexts come as TOML, and configurations are written as TOML, by
means of a library.  A document is what a reader of tables, arrays and single values
sees of the text: a date is a table with one member.
-/

namespace BraceTemplate.Toml

class Library where
  read? : String → Option Json
  write? : Json → Option String

/-- Without dates, and with texts of its own for strings that hold quotes or line ends. -/
instance undated : Library := ⟨fun text => Toml.read? text.toList, Toml.write?⟩

end BraceTemplate.Toml
