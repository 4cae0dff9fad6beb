import BraceTemplate.Filter.Comparison
import BraceTemplate.Filter.Logic
import BraceTemplate.Filter.Numeric
import BraceTemplate.Filter.Sequence
import BraceTemplate.Filter.Textual

/-!
# Registries of filters

A registry finds filters by name; registering a name again replaces its entry.
-/

namespace BraceTemplate

abbrev Registry (H : Type) := Dictionary (Filter H)

namespace Registry

variable {H : Type}

def sortedNames (r : Registry H) : List String := r.names.mergeSort (· ≤ ·)

def addSynonym (r : Registry H) (name source : String) : Registry H × Bool :=
  match r.find? source with
  | some filter => (r.insert name filter, true)
  | none => (r, false)

def diagnostic (r : Registry H) : String :=
  "FilterRegistry \x7b filters: [" ++ ", ".intercalate (r.sortedNames.map quote) ++ "] \x7d"

def builtin [HostObject H] : Registry H :=
  [("blank", Filter.blank), ("empty", Filter.empty), ("notempty", Filter.notempty),
    ("more", Filter.comparison "more" (· == .gt)), ("less", Filter.comparison "less" (· == .lt)),
    ("ormore", Filter.comparison "ormore" (· != .lt)),
    ("orless", Filter.comparison "orless" (· != .gt)), ("between", Filter.between),
    ("equals", Filter.equality "equals" true), ("notequals", Filter.equality "notequals" false),
    ("like", Filter.matching "like" true), ("notlike", Filter.matching "notlike" false),
    ("upcase", Filter.upcase), ("downcase", Filter.downcase), ("capcase", Filter.capcase),
    ("chop", Filter.chop), ("tease", Filter.tease), ("trim", Filter.trim), ("pack", Filter.pack),
    ("style", Filter.style), ("clean", Filter.clean), ("sub", Filter.substitute),
    ("url", Filter.url), ("split", Filter.split), ("sanitize", Filter.sanitize),
    ("repeat", Filter.repeatText), ("round", Filter.round), ("fix", Filter.fix),
    ("mod", Filter.arithmetic "mod" Binary64.remainder), ("divisible", Filter.divisible),
    ("even", Filter.parity "even" 0.0), ("odd", Filter.parity "odd" 1.0),
    ("number", Filter.number), ("plus", Filter.arithmetic "plus" (· + ·)),
    ("minus", Filter.arithmetic "minus" (· - ·)), ("times", Filter.arithmetic "times" (· * ·)),
    ("divide", Filter.arithmetic "divide" (· / ·)), ("size", Filter.size),
    ("length", Filter.size), ("reverse", Filter.reverse), ("join", Filter.join),
    ("limit", Filter.limit), ("slice", Filter.slice), ("sort", Filter.sort),
    ("first", Filter.first), ("last", Filter.last), ("has", Filter.has), ("sift", Filter.sift),
    ("bool", Filter.truthy), ("falsy", Filter.falsy), ("choose", Filter.choose),
    ("toggle", Filter.toggle), ("cases", Filter.toggle), ("pluralize", Filter.pluralize),
    ("call", Filter.call)]

end Registry

end BraceTemplate
