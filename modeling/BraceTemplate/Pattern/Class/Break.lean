import BraceTemplate.Pattern.Class.Property
import BraceTemplate.Pattern.Class.Script

/-!
# Kinds of characters at the breaks of a text

Three properties say how a character takes part in breaking a text: into
clusters that are seen as one character, into words and into sentences.  Each
has a list of values with their names and members.
-/

namespace BraceTemplate.Pattern.Class

open Text

structure NamedValue where
  long : String
  short : String
  members : CodeSet

def spacingMark : CodeSet := ofCategories (· == .mc)

def format : CodeSet := ofCategories (· == .cf)

/-! ## Clusters -/

def clusterPrepend : CodeSet := CodeSet.ofLines
  ["600 6 d7 1 31 1 180 2 50 1 46b 1 1036e 1 f 1 f4 2 20d 1 56d 1 1 1 f8 1 49 6 2bc 1 1bb 1"]

def clusterExtend : CodeSet := graphemeExtend.union emojiModifier

def separateMarks : CodeSet := CodeSet.ofLines
  ["102b 2 b 1 29 3 2 7 15 1 3 6 2 1 a 3 9c4 1 1 2 9016 1 1 1 6ca2 2"]

def clusterControl : CodeSet :=
  ((ofCategories fun g => g == .zl || g == .zp || g == .cc || g == .cf).union
    ((ofCategories (· == .cn)).inter defaultIgnorable)).diff
    (.unions
      [.range 0xA 0xA, .range 0xD 0xD, joinControl, prependedConcatenationMark, graphemeExtend])

def clusterSpacingMark : CodeSet :=
  ((spacingMark.diff clusterExtend).diff separateMarks).union
    ((CodeSet.singleton 0xE33).union (.singleton 0xEB3))

def openSyllables : CodeSet := .ofIncreasing ((List.range 399).map fun i => 0xAC00 + 28 * i)

def clusterBreaks : List NamedValue :=
  [⟨"control", "cn", clusterControl⟩, ⟨"cr", "cr", .range 0xD 0xD⟩, ⟨"lf", "lf", .range 0xA 0xA⟩,
    ⟨"extend", "ex", clusterExtend⟩, ⟨"prepend", "pp", clusterPrepend⟩,
    ⟨"spacingmark", "sm", clusterSpacingMark⟩, ⟨"regionalindicator", "ri", regionalIndicator⟩,
    ⟨"zwj", "zwj", .range 0x200D 0x200D⟩, ⟨"l", "l", CodeSet.ofLines ["1100 60 9800 1d"]⟩,
    ⟨"v", "v", CodeSet.ofLines ["1160 48 c608 17 959c 1 3 4"]⟩,
    ⟨"t", "t", CodeSet.ofLines ["11a8 58 c5cb 31"]⟩, ⟨"lv", "lv", openSyllables⟩,
    ⟨"lvt", "lvt", (CodeSet.range 0xAC00 0xD7A3).diff openSyllables⟩]

/-! ## Words -/

def wordExtend : CodeSet := .unions [graphemeExtend, spacingMark, emojiModifier]

def wordFormat : CodeSet :=
  format.diff (.unions [.range 0x200B 0x200D, prependedConcatenationMark, graphemeExtend])

def katakana : CodeSet :=
  (scriptSet ['K', 'a', 'n', 'a']).union (CodeSet.ofLines ["3031 5 65 2 3 1 5b 1 ce73 1"])

def hebrewLetter : CodeSet := (scriptSet ['H', 'e', 'b', 'r']).inter (ofCategories (· == .lo))

def dictionaryScripts : CodeSet :=
  .unions ((wordsOfLines ["Hira Thai Laoo Khmr Mymr Tale Talu Lana Tavt Ahom"]).map scriptSet)

def wordLetter : CodeSet :=
  (alphabetic.diff
    (.unions [ideographic, katakana, hebrewLetter, wordExtend, dictionaryScripts])).union
    (CodeSet.ofLines
      ["2c2 4 c 6 6 2 5 7 1 1 1 11 25a 3 1 1 2b 1 68 1 11b 1 9ff8 f 9 2 67 2 3d0 1"])

def wordNumeric : CodeSet :=
  .unions [ofCategories (· == .nd), .range 0x66B 0x66B, .range 0x19DA 0x19DA,
    prependedConcatenationMark.diff (.range 0x70F 0x70F)]

def newlines : CodeSet := .unions [.range 0xB 0xC, .range 0x85 0x85, .range 0x2028 0x2029]

def wordBreaks : List NamedValue :=
  [⟨"cr", "cr", .range 0xD 0xD⟩, ⟨"lf", "lf", .range 0xA 0xA⟩, ⟨"newline", "nl", newlines⟩,
    ⟨"extend", "extend", wordExtend⟩, ⟨"format", "fo", wordFormat⟩,
    ⟨"katakana", "ka", katakana⟩, ⟨"hebrewletter", "hl", hebrewLetter⟩,
    ⟨"aletter", "le", wordLetter⟩, ⟨"numeric", "nu", wordNumeric⟩,
    ⟨"regionalindicator", "ri", regionalIndicator⟩, ⟨"zwj", "zwj", .range 0x200D 0x200D⟩,
    ⟨"singlequote", "sq", .range 0x27 0x27⟩, ⟨"doublequote", "dq", .range 0x22 0x22⟩,
    ⟨"midnumlet", "mb", CodeSet.ofLines ["2e 1 1fe9 2 a 1 de2d 1 b4 1 6 1"]⟩,
    ⟨"midletter", "ml",
      CodeSet.ofLines ["3a 1 7c 1 2cf 1 1d7 1 94 1 1a32 1 ddeb 1 41 1 c4 1"]⟩,
    ⟨"midnum", "mn",
      CodeSet.ofLines ["2c 1 e 1 342 1 20a 1 82 2 5e 1 18b 1 184b 1 de0b 1 3 1 b7 1 e 1"]⟩,
    ⟨"extendnumlet", "ex", (ofCategories (· == .pc)).union (.range 0x202F 0x202F)⟩,
    ⟨"wsegspace", "wsegspace", CodeSet.ofLines ["20 1 165f 1 97f 7 1 3 54 1 fa0 1"]⟩]

/-! ## Sentences -/

def sentenceExtend : CodeSet := .unions [graphemeExtend, spacingMark, .range 0x200D 0x200D]

def sentenceFormat : CodeSet :=
  (format.diff (.unions [joinControl, prependedConcatenationMark, graphemeExtend])).union
    (CodeSet.range 0x70F 0x70F)

def headlineLetters : CodeSet :=
  .unions [.range 0x10D0 0x10FA, .range 0x10FD 0x10FF, .range 0x1C90 0x1CBA, .range 0x1CBD 0x1CBF]

def sentenceLower : CodeSet := (lowercase.diff graphemeExtend).diff headlineLetters

def sentenceUpper : CodeSet :=
  (uppercase.union (ofCategories (· == .lt))).diff headlineLetters

def sentenceLetter : CodeSet :=
  (alphabetic.diff (.unions [sentenceLower, sentenceUpper, sentenceExtend])).union
    (CodeSet.range 0x5F3 0x5F3)

def sentenceSeparator : CodeSet := (CodeSet.range 0x85 0x85).union (CodeSet.range 0x2028 0x2029)

def ambiguousTerminal : CodeSet :=
  .unions [.range 0x2E 0x2E, .range 0x2024 0x2024, .range 0xFE52 0xFE52, .range 0xFF0E 0xFF0E]

def sentenceClose : CodeSet :=
  (ofCategories fun g => g == .ps || g == .pe || g == .pi || g == .pf).union
    (CodeSet.ofLines ["22 1 4 1 2733 6 69f 2 4 3 2 1 1c86a 3"])

def sentenceBreaks : List NamedValue :=
  [⟨"cr", "cr", .range 0xD 0xD⟩, ⟨"lf", "lf", .range 0xA 0xA⟩, ⟨"extend", "ex", sentenceExtend⟩,
    ⟨"sep", "se", sentenceSeparator⟩, ⟨"format", "fo", sentenceFormat⟩,
    ⟨"sp", "sp",
      whiteSpace.diff (.unions [sentenceSeparator, .range 0xA 0xA, .range 0xD 0xD])⟩,
    ⟨"lower", "lo", sentenceLower⟩, ⟨"upper", "up", sentenceUpper⟩,
    ⟨"oletter", "le", sentenceLetter⟩, ⟨"numeric", "nu", wordNumeric.union (.range 0x66C 0x66C)⟩,
    ⟨"aterm", "at", ambiguousTerminal⟩, ⟨"sterm", "st", sentenceTerminal.diff ambiguousTerminal⟩,
    ⟨"close", "cl", sentenceClose⟩,
    ⟨"scontinue", "sc",
      CodeSet.ofLines
        ["2c 2 c 2 342 1 1de 1 ae 2 1ea 1 1009 1 5 1 80a 2 fec 1 ce0e 2 1 2 1c 2 1d 2 2 2 2 1 a 1",
         "a8 2 c 2 48 1"]⟩]

def ofValueName? (values : List NamedValue) (name : String) : Option CodeSet :=
  (values.find? fun value => value.long = name || value.short = name).map (·.members)

end BraceTemplate.Pattern.Class
