import BraceTemplate.Pattern.Class.Age
import BraceTemplate.Text.Category

/-!
# Classes of categories

The characters of a category as patterns see them: what came in later is
unassigned, and a character that has changed its category since is still in the
one that it had.
-/

namespace BraceTemplate.Pattern.Class

open Text

def formerLowercase : CodeSet := .singleton 0x295

def ofCategories (test : Category → Bool) : CodeSet :=
  let assigned := (CodeSet.ofRuns categoryRuns test).diff later
  let members := if test .cn then assigned.union later else assigned
  if test .ll == test .lo then members else members.symmDiff formerLowercase

def known (set : CodeSet) : CodeSet := set.diff later

structure NamedCategory where
  long : String
  short : String
  test : Category → Bool

def NamedCategory.single (long short : String) (category : Category) : NamedCategory :=
  ⟨long, short, (· == category)⟩

/-- All categories and groups; one that has a third name stands here twice. -/
def namedCategories : List NamedCategory :=
  [.single "uppercaseletter" "lu" .lu, .single "lowercaseletter" "ll" .ll,
    .single "titlecaseletter" "lt" .lt, .single "modifierletter" "lm" .lm,
    .single "otherletter" "lo" .lo, .single "nonspacingmark" "mn" .mn,
    .single "spacingmark" "mc" .mc, .single "enclosingmark" "me" .me,
    .single "decimalnumber" "nd" .nd, .single "digit" "nd" .nd, .single "letternumber" "nl" .nl,
    .single "othernumber" "no" .no, .single "connectorpunctuation" "pc" .pc,
    .single "dashpunctuation" "pd" .pd, .single "openpunctuation" "ps" .ps,
    .single "closepunctuation" "pe" .pe, .single "initialpunctuation" "pi" .pi,
    .single "finalpunctuation" "pf" .pf, .single "otherpunctuation" "po" .po,
    .single "mathsymbol" "sm" .sm, .single "currencysymbol" "sc" .sc,
    .single "modifiersymbol" "sk" .sk, .single "othersymbol" "so" .so,
    .single "spaceseparator" "zs" .zs, .single "lineseparator" "zl" .zl,
    .single "paragraphseparator" "zp" .zp, .single "control" "cc" .cc, .single "cntrl" "cc" .cc,
    .single "format" "cf" .cf, .single "privateuse" "co" .co, .single "unassigned" "cn" .cn,
    ⟨"casedletter", "lc", fun g => g == .lu || g == .ll || g == .lt⟩,
    ⟨"letter", "l", Category.isLetter⟩, ⟨"mark", "m", Category.isMark⟩,
    ⟨"combiningmark", "m", Category.isMark⟩, ⟨"number", "n", Category.isNumber⟩,
    ⟨"punctuation", "p", Category.isPunctuation⟩, ⟨"punct", "p", Category.isPunctuation⟩,
    ⟨"symbol", "s", Category.isSymbol⟩, ⟨"separator", "z", Category.isSeparator⟩,
    ⟨"other", "c", Category.isOther⟩, ⟨"assigned", "assigned", (· != .cn)⟩]

def ofCategoryName? (name : String) : Option CodeSet :=
  if name = "any" then some .all
  else if name = "ascii" then some (.range 0 0x7F)
  else (namedCategories.find? fun entry => entry.long = name || entry.short = name).map
    fun entry => ofCategories entry.test

end BraceTemplate.Pattern.Class
