import BraceTemplate.Pattern.Class.Category
import BraceTemplate.Pattern.Class.Listed
import BraceTemplate.Text.Case

/-!
# Properties of characters that follow from others

Most properties are sums of categories and of further characters that are
listed.  At the end stands the list of all properties with their names.
-/

namespace BraceTemplate.Pattern.Class

open Text

/-! ## Letters and case -/

def otherAlphabetic : CodeSet := known Text.otherAlphabetic

def otherLowercase : CodeSet := known Text.otherLowercase

def otherUppercase : CodeSet := known Text.otherUppercase

def alphabetic : CodeSet :=
  (ofCategories fun g => g.isLetter || g == .nl).union otherAlphabetic

def lowercase : CodeSet := (ofCategories (· == .ll)).union otherLowercase

def uppercase : CodeSet := (ofCategories (· == .lu)).union otherUppercase

def cased : CodeSet := (lowercase.union uppercase).union (ofCategories (· == .lt))

def caseIgnorable : CodeSet :=
  (ofCategories fun g => g == .mn || g == .me || g == .cf || g == .lm || g == .sk).union
    (known Text.otherCaseIgnorable)

def sourcesOfRuns (runs : Array CaseRun) : List Nat :=
  runs.toList.flatMap fun run => run.pairs.map (·.1)

def changesWhenLowercased : CodeSet :=
  known (.ofList (0x130 :: sourcesOfRuns lowerRuns))

def capitalsToCome : CodeSet := (CodeSet.singleton 0xA7D3).union (.singleton 0xA7D5)

def changesWhenUppercased : CodeSet :=
  (known (.ofList (upperExpansions.map (·.1) ++ sourcesOfRuns upperRuns))).diff capitalsToCome

def titleOnly : CodeSet := CodeSet.ofLines
  ["1c5 1 2 1 2 1 26 1 edd 2b 2 3 e88 8 8 8 8 8 c 1 f 1 2f 1"]

def capitalPairs : CodeSet := CodeSet.ofLines ["1c4 1 2 1 2 1 26 1"]

def changesWhenTitlecased : CodeSet := (changesWhenUppercased.diff titleOnly).union capitalPairs

def changesWhenCasemapped : CodeSet :=
  (changesWhenLowercased.union changesWhenUppercased).union changesWhenTitlecased

def foldedCapitals : CodeSet := .range 0x13A0 0x13F5

def foldedSmallLetters : CodeSet := CodeSet.ofLines
  ["b5 1 29 1 69 1 35 1 1c5 1 7c 1 d 2 3 2 19 2 3 1 191 1 e70 6 882 9 211 2 e4 8 8 8 8 8 a 3 2 1",
   "a 3 2 1 2a 3 2 1 8b78 50 4f40 7 c 5"]

def changesWhenCasefolded : CodeSet :=
  (changesWhenLowercased.diff foldedCapitals).union foldedSmallLetters

/-! ## Identifiers -/

def idStart : CodeSet :=
  ((ofCategories fun g => g.isLetter || g == .nl).union otherIdStart).diff
    (patternSyntax.union patternWhiteSpace)

def idContinue : CodeSet :=
  (idStart.union (ofCategories fun g => g == .mn || g == .mc || g == .nd || g == .pc)).union
    otherIdContinue

def unstableStart : CodeSet := CodeSet.ofLines
  ["37a 1 ab8 1 7f 1 21e7 2 cbc1 6 196 2 74 1 1 1 1 1 1 1 1 1 1 1 1 1 1 1 11f 2"]

def unstableContinue : CodeSet := CodeSet.ofLines
  ["37a 1 2d20 2 cbc1 6 196 2 74 1 1 1 1 1 1 1 1 1 1 1 1 1 1 1"]

def xidStart : CodeSet := idStart.diff unstableStart

def xidContinue : CodeSet := idContinue.diff unstableContinue

/-! ## Further properties -/

def whiteSpace : CodeSet := CodeSet.ofLines ["9 5 12 1 64 1 1a 1 15df 1 97f b 1d 2 5 1 2f 1 fa0 1"]

def joinControl : CodeSet := .range 0x200C 0x200D

def asciiHexDigit : CodeSet := hexDigit.inter (.range 0 0x7F)

def otherGraphemeExtend : CodeSet := known Text.otherGraphemeExtend

def graphemeExtend : CodeSet :=
  (ofCategories fun g => g == .mn || g == .me).union otherGraphemeExtend

def graphemeBase : CodeSet :=
  (ofCategories fun g => !(g.isOther || g == .zl || g == .zp)).diff graphemeExtend

def defaultIgnorable : CodeSet :=
  ((otherDefaultIgnorableCodePoint.union (ofCategories (· == .cf))).union variationSelector).diff
    (.unions [whiteSpace, .range 0xFFF9 0xFFFB, .range 0x13430 0x1343F, prependedConcatenationMark])

def dash : CodeSet :=
  (ofCategories (· == .pd)).union (CodeSet.ofLines ["2053 1 27 1 f 1 186 1"])

def ideographic : CodeSet :=
  unifiedIdeograph.union (CodeSet.ofLines
    ["3006 2 19 9 e 3 c8c5 10e 2 1 1 1 2 a 1 1 1 1 2 2 3 44 2 6a 750a 1 1b 17f8 8 4d6 29 a 2467",
     "18c 14504 21e"])

def math : CodeSet := (ofCategories (· == .sm)).union otherMath

def decimalDigits : CodeSet := ofCategories (· == .nd)

def wordCharacters : CodeSet :=
  .unions [alphabetic, ofCategories fun g => g.isMark || g == .nd || g == .pc, joinControl]

/-! ## Names -/

structure NamedProperty where
  long : String
  short : String
  members : CodeSet

def namedProperties : List NamedProperty :=
  [⟨"asciihexdigit", "ahex", asciiHexDigit⟩, ⟨"alphabetic", "alpha", alphabetic⟩,
    ⟨"bidicontrol", "bidic", bidiControl⟩, ⟨"bidimirrored", "bidim", bidiMirrored⟩,
    ⟨"caseignorable", "ci", caseIgnorable⟩, ⟨"cased", "cased", cased⟩,
    ⟨"changeswhencasefolded", "cwcf", changesWhenCasefolded⟩,
    ⟨"changeswhencasemapped", "cwcm", changesWhenCasemapped⟩,
    ⟨"changeswhenlowercased", "cwl", changesWhenLowercased⟩,
    ⟨"changeswhentitlecased", "cwt", changesWhenTitlecased⟩,
    ⟨"changeswhenuppercased", "cwu", changesWhenUppercased⟩, ⟨"dash", "dash", dash⟩,
    ⟨"defaultignorablecodepoint", "di", defaultIgnorable⟩, ⟨"deprecated", "dep", deprecated⟩,
    ⟨"diacritic", "dia", diacritic⟩, ⟨"emoji", "emoji", emoji⟩,
    ⟨"emojicomponent", "ecomp", emojiComponent⟩, ⟨"emojimodifier", "emod", emojiModifier⟩,
    ⟨"emojimodifierbase", "ebase", emojiModifierBase⟩,
    ⟨"emojipresentation", "epres", emojiPresentation⟩,
    ⟨"extendedpictographic", "extpict", extendedPictographic⟩, ⟨"extender", "ext", extender⟩,
    ⟨"graphemebase", "grbase", graphemeBase⟩, ⟨"graphemeextend", "grext", graphemeExtend⟩,
    ⟨"graphemelink", "grlink", graphemeLink⟩, ⟨"hexdigit", "hex", hexDigit⟩,
    ⟨"hyphen", "hyphen", hyphen⟩, ⟨"idsbinaryoperator", "idsb", idsBinaryOperator⟩,
    ⟨"idstrinaryoperator", "idst", idsTrinaryOperator⟩,
    ⟨"idsunaryoperator", "idsu", idsUnaryOperator⟩,
    ⟨"idcompatmathcontinue", "idcompatmathcontinue", idCompatMathContinue⟩,
    ⟨"idcompatmathstart", "idcompatmathstart", idCompatMathStart⟩,
    ⟨"idcontinue", "idc", idContinue⟩, ⟨"idstart", "ids", idStart⟩,
    ⟨"ideographic", "ideo", ideographic⟩, ⟨"joincontrol", "joinc", joinControl⟩,
    ⟨"logicalorderexception", "loe", logicalOrderException⟩, ⟨"lowercase", "lower", lowercase⟩,
    ⟨"math", "math", math⟩, ⟨"modifiercombiningmark", "mcm", modifierCombiningMark⟩,
    ⟨"noncharactercodepoint", "nchar", noncharacterCodePoint⟩,
    ⟨"otheralphabetic", "oalpha", otherAlphabetic⟩,
    ⟨"otherdefaultignorablecodepoint", "odi", otherDefaultIgnorableCodePoint⟩,
    ⟨"othergraphemeextend", "ogrext", otherGraphemeExtend⟩,
    ⟨"otheridcontinue", "oidc", otherIdContinue⟩, ⟨"otheridstart", "oids", otherIdStart⟩,
    ⟨"otherlowercase", "olower", otherLowercase⟩, ⟨"othermath", "omath", otherMath⟩,
    ⟨"otheruppercase", "oupper", otherUppercase⟩, ⟨"patternsyntax", "patsyn", patternSyntax⟩,
    ⟨"patternwhitespace", "patws", patternWhiteSpace⟩,
    ⟨"prependedconcatenationmark", "pcm", prependedConcatenationMark⟩,
    ⟨"quotationmark", "qmark", quotationMark⟩, ⟨"radical", "radical", radical⟩,
    ⟨"regionalindicator", "ri", regionalIndicator⟩,
    ⟨"sentenceterminal", "sterm", sentenceTerminal⟩, ⟨"softdotted", "sd", softDotted⟩,
    ⟨"terminalpunctuation", "term", terminalPunctuation⟩,
    ⟨"unifiedideograph", "uideo", unifiedIdeograph⟩, ⟨"uppercase", "upper", uppercase⟩,
    ⟨"variationselector", "vs", variationSelector⟩, ⟨"whitespace", "wspace", whiteSpace⟩,
    ⟨"space", "space", whiteSpace⟩, ⟨"xidcontinue", "xidc", xidContinue⟩,
    ⟨"xidstart", "xids", xidStart⟩]

def ofPropertyName? (name : String) : Option CodeSet :=
  (namedProperties.find? fun entry => entry.long = name || entry.short = name).map (·.members)

end BraceTemplate.Pattern.Class
