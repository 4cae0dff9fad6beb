import BraceTemplate.Number.Reader
import BraceTemplate.Pattern.Class.Folding
import BraceTemplate.Pattern.Class.Name
import BraceTemplate.Pattern.Size
import BraceTemplate.Text.Split

/-!
# Reading patterns

The written form of patterns.  Flags hold from where they are set to the end of
the group around them.  A reader takes the state and gives a result and the
state behind it, or fails; where readers call each other in circles they are
bounded by the length of the text.
-/

namespace BraceTemplate.Pattern

open Text

structure Flags where
  ignoreCase : Bool
  multiLine : Bool
  dotAll : Bool
  swapGreed : Bool
  unicode : Bool
  anyLineEnd : Bool
  spaced : Bool

structure ReaderState where
  rest : Text
  flags : Flags
  groups : Nat
  names : List (Text × Nat)

abbrev Reader := StateT ReaderState Option

namespace Reader

/-! ## Characters -/

def rest : Reader Text := fun s => some (s.rest, s)

def setRest (rest : Text) : Reader Unit := fun s => some ((), { s with rest })

def flags : Reader Flags := fun s => some (s.flags, s)

def setFlags (flags : Flags) : Reader Unit := fun s => some ((), { s with flags })

def current : Reader Char := fun s => s.rest.head?.map fun c => (c, s)

def bump : Reader Unit := fun s => some ((), { s with rest := s.rest.drop 1 })

/--
Text without the blanks and comments at its start; a comment goes from `#` to the end of
its line.
-/
def withoutSpace : Nat → Text → Text
  | 0, t => t
  | _, [] => []
  | fuel + 1, c :: rest =>
      if isBlank c then withoutSpace fuel rest
      else if c == '#' then withoutSpace fuel (rest.dropWhile (· != '\n'))
      else c :: rest

def skipSpace : Reader Unit := fun s =>
  some ((), if s.flags.spaced then { s with rest := withoutSpace s.rest.length s.rest } else s)

def skipBlanks : Reader Unit := fun s => some ((), { s with rest := s.rest.dropWhile isBlank })

def takeCounted (test : Char → Bool) : Nat → Text → Reader Text
  | 0, taken => pure taken.reverse
  | fuel + 1, taken => do
      match (← rest).head? with
      | none => pure taken.reverse
      | some c =>
          if test c then
            bump
            skipSpace
            takeCounted test fuel (c :: taken)
          else pure taken.reverse

def takeWhile (test : Char → Bool) : Reader Text := do
  takeCounted test (← rest).length []

def readBraced : Reader Text := do
  bump
  skipSpace
  let inner ← takeWhile (· != '}')
  if (← rest).isEmpty then failure
  else
    bump
    pure inner

/-! ## Escapes -/

inductive Primitive where
  | literal (c : Char)
  | chars (set : CodeSet)
  | assertion (a : Assertion)

def isMeta (c : Char) : Bool :=
  ['\\', '.', '+', '*', '?', '(', ')', '|', '[', ']', '{', '}', '^', '$', '#', '&', '-', '~'].contains c

def isEscapable (c : Char) : Bool :=
  isMeta c || (c.toNat < 0x80 && !c.isAlphanum && c != '<' && c != '>')

def readHexDigits : Nat → Nat → Reader Nat
  | 0, value => pure value
  | count + 1, value => do
      let digit ← (hexDigit? (← current) : Option Nat)
      bump
      skipSpace
      readHexDigits count (value * 16 + digit)

def readCode (count : Nat) : Reader Primitive := do
  skipSpace
  let flags ← flags
  if (← current) == '{' then
    let digits ← readBraced
    skipSpace
    let c ← charOfCode? (hexValue digits)
    if digits.isEmpty || !digits.all (hexDigit? · |>.isSome) then failure
    else pure (.literal c)
  else
    let code ← readHexDigits count 0
    let c ← charOfCode? code
    if count == 2 && 0x80 ≤ code && !flags.unicode then failure
    else pure (.literal c)

def foldSet (flags : Flags) (set : CodeSet) : CodeSet :=
  if !flags.ignoreCase then set
  else if flags.unicode then Class.foldCase set
  else Class.foldBasicCase set

/-- The set of a class or what is outside it; without Unicode there is no outside. -/
def negateSet (flags : Flags) (negated : Bool) (set : CodeSet) : Reader CodeSet :=
  if !negated then pure set
  else if flags.unicode then pure set.complement
  else failure

def readShortClass (c : Char) : Reader Primitive := do
  let flags ← flags
  let set :=
    if c.toLower == 'd' then Class.decimalDigits
    else if c.toLower == 's' then Class.whiteSpace
    else Class.wordCharacters
  let set := if flags.unicode then set else set.inter (.range 0 0x7F)
  return .chars (← negateSet flags c.isUpper set)

def classOfText (t : Text) : Option (Bool × CodeSet) :=
  match cut? ['!', '='] t with
  | some (property, value) => (Class.ofValue? property value).map (true, ·)
  | none =>
      match (cut? [':'] t).or (cut? ['='] t) with
      | some (property, value) => (Class.ofValue? property value).map (false, ·)
      | none => (Class.named? t).map (false, ·)

def readNamedClass (negated : Bool) : Reader Primitive := do
  skipSpace
  let flags ← flags
  let c ← current
  if !flags.unicode || c == '\\' then failure
  else
    let written ←
      if c == '{' then readBraced
      else do
        bump
        skipSpace
        pure [c]
    let (outside, set) ← classOfText written
    return .chars (← negateSet flags (negated != outside) (foldSet flags set))

def wordPlace? (name : String) : Option WordPlace :=
  if name = "start" then some .start
  else if name = "end" then some .finish
  else if name = "start-half" then some .startHalf
  else if name = "end-half" then some .finishHalf
  else none

def readNamedBoundary (basic : Bool) : Reader Primitive := do
  let start ← rest
  if start.head? != some '{' then pure (.assertion (.word .boundary basic))
  else
    bump
    skipSpace
    let isNameCharacter := fun (c : Char) => c.isAlpha || c == '-'
    if !isNameCharacter (← current) then
      setRest start
      pure (.assertion (.word .boundary basic))
    else
      let name ← takeWhile isNameCharacter
      if (← current) == '}' then
        bump
        let place ← wordPlace? (String.ofList name)
        pure (.assertion (.word place basic))
      else failure

def readEscape : Reader Primitive := do
  let c ← current
  bump
  let basic := !(← flags).unicode
  if c == 'x' then readCode 2
  else if c == 'u' then readCode 4
  else if c == 'U' then readCode 8
  else if c == 'p' || c == 'P' then readNamedClass (c == 'P')
  else if ['d', 's', 'w', 'D', 'S', 'W'].contains c then readShortClass c
  else if isEscapable c then pure (.literal c)
  else if c == 'a' then pure (.literal '\x07')
  else if c == 'f' then pure (.literal '\x0c')
  else if c == 't' then pure (.literal '\t')
  else if c == 'n' then pure (.literal '\n')
  else if c == 'r' then pure (.literal '\r')
  else if c == 'v' then pure (.literal '\x0b')
  else if c == 'A' then pure (.assertion .textStart)
  else if c == 'z' then pure (.assertion .textEnd)
  else if c == 'b' then readNamedBoundary basic
  else if c == 'B' then pure (.assertion (.word .noBoundary basic))
  else if c == '<' then pure (.assertion (.word .start basic))
  else if c == '>' then pure (.assertion (.word .finish basic))
  else failure

/-! ## Sets of characters -/

inductive SetOperation where
  | intersection | difference | symmetricDifference
  deriving DecidableEq, Repr

structure NestedSet where
  set : CodeSet
  depth : Nat

structure SetItems where
  set : CodeSet
  count : Nat
  depth : Nat

namespace SetItems

def none : SetItems := ⟨.empty, 0, 0⟩

def add (items : SetItems) (item : NestedSet) : SetItems :=
  ⟨items.set.union item.set, items.count + 1, max items.depth item.depth⟩

def addCharacter (items : SetItems) (c : Char) : SetItems := items.add ⟨.singleton c.toNat, 0⟩

def total (items : SetItems) : NestedSet :=
  ⟨items.set, if 1 < items.count then items.depth + 1 else items.depth⟩

end SetItems

def combineSets (flags : Flags) (pending : Option (SetOperation × NestedSet)) (items : SetItems) :
    NestedSet :=
  let last := items.total
  match pending with
  | none => last
  | some (operation, before) =>
      let first := foldSet flags before.set
      let second := foldSet flags last.set
      let set :=
        match operation with
        | .intersection => first.inter second
        | .difference => first.diff second
        | .symmetricDifference => first.symmDiff second
      ⟨set, max before.depth last.depth + 1⟩

def readSetItem : Reader Primitive := do
  let c ← current
  bump
  if c == '\\' then readEscape else pure (.literal c)

def setOfItem (flags : Flags) : Primitive → Reader CodeSet
  | .literal c => if flags.unicode || c.toNat < 0x80 then pure (.singleton c.toNat) else failure
  | .chars set => pure set
  | .assertion _ => failure

def following? (flags : Flags) (t : Text) : Option Char :=
  let behind := t.drop 1
  if !flags.spaced then behind.head?
  else
    let counted :=
      match behind.dropWhile isBlank with
      | '#' :: comment => comment.dropWhile isBlank
      | counted => counted
    counted.head?.or behind.head?

def readSetRange : Reader CodeSet := do
  let flags ← flags
  let first ← readSetItem
  skipSpace
  let c ← current
  let following := following? flags (← rest)
  if c != '-' || following == some ']' || following == some '-' then setOfItem flags first
  else
    bump
    skipSpace
    let last ← readSetItem
    match first, last with
    | .literal low, .literal high =>
        if low ≤ high && (flags.unicode || high.toNat < 0x80) then
          pure (.range low.toNat high.toNat)
        else failure
    | _, _ => failure

def basicClassAt? (t : Text) : Option (Bool × CodeSet × Text) :=
  match t with
  | '[' :: ':' :: inner =>
      let (negated, inner) :=
        match inner with
        | '^' :: inner => (true, inner)
        | inner => (false, inner)
      let name := inner.takeWhile (· != ':')
      match inner.drop name.length with
      | ':' :: ']' :: after => (Class.basicNamed? (String.ofList name)).map (negated, ·, after)
      | _ => none
  | _ => none

def readHyphens : Nat → SetItems → Reader SetItems
  | 0, items => pure items
  | fuel + 1, items => do
      if (← current) == '-' then
        bump
        skipSpace
        readHyphens fuel (items.addCharacter '-')
      else pure items

def readSetStart : Reader (Bool × SetItems) := do
  skipSpace
  let negated := (← current) == '^'
  if negated then
    bump
    skipSpace
  let items ← readHyphens (← rest).length .none
  if items.count == 0 && (← current) == ']' then
    bump
    skipSpace
    pure (negated, items.addCharacter ']')
  else pure (negated, items)

mutual

def readSet : Nat → Reader NestedSet
  | 0 => failure
  | fuel + 1 => do
      let (negated, items) ← readSetStart
      readSetItems fuel negated items none

def readSetItems :
    Nat → Bool → SetItems → Option (SetOperation × NestedSet) → Reader NestedSet
  | 0, _, _, _ => failure
  | fuel + 1, negated, items, pending => do
      skipSpace
      let flags ← flags
      let t ← rest
      match t with
      | [] => failure
      | ']' :: after =>
          setRest after
          let combined := combineSets flags pending items
          let set ← negateSet flags negated (foldSet flags combined.set)
          pure ⟨set, combined.depth + 1⟩
      | '&' :: '&' :: after =>
          setRest after
          readSetItems fuel negated .none (some (.intersection, combineSets flags pending items))
      | '-' :: '-' :: after =>
          setRest after
          readSetItems fuel negated .none (some (.difference, combineSets flags pending items))
      | '~' :: '~' :: after =>
          setRest after
          readSetItems fuel negated .none
            (some (.symmetricDifference, combineSets flags pending items))
      | '[' :: inner =>
          match basicClassAt? t with
          | some (outside, basic, after) =>
              setRest after
              let set ← negateSet flags outside (foldSet flags basic)
              readSetItems fuel negated (items.add ⟨set, 0⟩) pending
          | none =>
              setRest inner
              let nested ← readSet fuel
              readSetItems fuel negated (items.add nested) pending
      | _ =>
          let set ← readSetRange
          readSetItems fuel negated (items.add ⟨set, 0⟩) pending

end

/-! ## Groups and flags -/

def isGroupNameCharacter (first : Bool) (c : Char) : Bool :=
  c == '_' || if first then isAlphabetic c
    else c == '.' || c == '[' || c == ']' || isAlphanumeric c

def readGroupName : Reader Text := do
  let t ← rest
  let name := t.takeWhile (· != '>')
  let s ← get
  if name.isEmpty || t.length == name.length || !isGroupNameCharacter true (name.headD ' ') ||
      !name.all (isGroupNameCharacter false) || s.names.any (·.1 == name) then failure
  else
    setRest (t.drop (name.length + 1))
    pure name

def switchFlag? (flags : Flags) (c : Char) (on : Bool) : Option Flags :=
  if c == 'i' then some { flags with ignoreCase := on }
  else if c == 'm' then some { flags with multiLine := on }
  else if c == 's' then some { flags with dotAll := on }
  else if c == 'U' then some { flags with swapGreed := on }
  else if c == 'u' then some { flags with unicode := on }
  else if c == 'R' then some { flags with anyLineEnd := on }
  else if c == 'x' then some { flags with spaced := on }
  else none

def readFlags : Nat → (seen : Text) → (off : Bool) → Flags → Reader (Text × Flags)
  | 0, _, _, _ => failure
  | fuel + 1, seen, off, flags => do
      let c ← current
      if c == ':' || c == ')' then
        if seen.head? == some '-' then failure else pure (seen, flags)
      else if seen.contains c then failure
      else if c == '-' then
        bump
        readFlags fuel (c :: seen) true flags
      else
        let switched ← switchFlag? flags c !off
        bump
        readFlags fuel (c :: seen) off switched

/-! ## Repetitions -/

/-- A decimal number with blanks around it, below `2 ^ 32`. -/
def readCount : Reader Nat := do
  skipBlanks
  let digits ← takeWhile Char.isDigit
  skipBlanks
  if digits.isEmpty || Nat.pow 2 32 ≤ digitsValue digits then failure
  else pure (digitsValue digits)

def readBounds : Reader (Nat × Option Nat) := do
  skipSpace
  let least ← readCount
  let most ←
    if (← current) == ',' then do
      bump
      skipSpace
      if (← current) == '}' then pure none else some <$> readCount
    else pure (some least)
  if (← current) != '}' || most.any (· < least) then failure
  else
    bump
    pure (least, most)

def readGreed : Reader Bool := do
  let t ← rest
  let lazy := t.head? == some '?'
  if lazy then bump
  return lazy == (← flags).swapGreed

/-! ## Patterns -/

structure Item where
  pattern : Pattern
  depth : Nat
  repeatable : Bool

namespace Item

def single (pattern : Pattern) : Item := ⟨pattern, 0, true⟩

def setting : Item := ⟨.empty, 0, false⟩

def around (inner : Item) (pattern : Pattern) : Item := ⟨pattern, inner.depth + 1, true⟩

def together (build : List Pattern → Pattern) (items : List Item) : Item :=
  let patterns := items.map (·.pattern)
  match items with
  | [item] => item
  | [] => single (build [])
  | items => ⟨build patterns, (items.map (·.depth)).foldl max 0 + 1, true⟩

end Item

/-- The greatest depth to which the parts of a pattern may be nested. -/
def depthLimit : Nat := 250

def literalPattern (flags : Flags) (c : Char) : Pattern :=
  if !flags.ignoreCase then .literal [c]
  else if flags.unicode then ofSet (.ofList (Class.variants c.toNat))
  else ofSet (foldSet flags (.singleton c.toNat))

def patternOfPrimitive (flags : Flags) : Primitive → Pattern
  | .literal c => literalPattern flags c
  | .chars set => ofSet set
  | .assertion a => .assertion a

def anyCharacter (flags : Flags) : Reader Pattern :=
  if !flags.unicode then failure
  else if flags.dotAll then pure (ofSet .all)
  else if flags.anyLineEnd then
    pure (ofSet ((CodeSet.singleton 0xA).union (.singleton 0xD)).complement)
  else pure (ofSet (CodeSet.singleton 0xA).complement)

def startAssertion (flags : Flags) : Assertion :=
  if !flags.multiLine then .textStart
  else if flags.anyLineEnd then .anyLineStart
  else .lineStart

def endAssertion (flags : Flags) : Assertion :=
  if !flags.multiLine then .textEnd
  else if flags.anyLineEnd then .anyLineEnd
  else .lineEnd

def repeatLast (items : List Item) (least : Nat) (most : Option Nat) (greedy : Bool) :
    Reader (List Item) :=
  match items with
  | [] => failure
  | item :: before =>
      if item.repeatable then
        pure (item.around (repetitionOf least most greedy item.pattern) :: before)
      else failure

mutual

def readChoice : Nat → List Item → Reader Item
  | 0, _ => failure
  | fuel + 1, before => do
      let alternative ← readSequence fuel []
      if (← rest).head? == some '|' then
        bump
        readChoice fuel (alternative :: before)
      else pure (.together choiceOf (alternative :: before).reverse)

/-- Reads a sequence behind some of its items, which are given in reverse. -/
def readSequence : Nat → List Item → Reader Item
  | 0, _ => failure
  | fuel + 1, items => do
      skipSpace
      let flags ← flags
      match (← rest).head? with
      | none => pure (.together sequenceOf items.reverse)
      | some c =>
          if c == ')' || c == '|' then pure (.together sequenceOf items.reverse)
          else
            bump
            if c == '(' then
              let item ← readGroup fuel
              readSequence fuel (item :: items)
            else if c == '[' then
              let nested ← readSet fuel
              readSequence fuel (⟨ofSet nested.set, nested.depth, true⟩ :: items)
            else if c == '?' then
              readSequence fuel (← repeatLast items 0 (some 1) (← readGreed))
            else if c == '*' then
              readSequence fuel (← repeatLast items 0 none (← readGreed))
            else if c == '+' then
              readSequence fuel (← repeatLast items 1 none (← readGreed))
            else if c == '{' then
              let (least, most) ← readBounds
              skipSpace
              readSequence fuel (← repeatLast items least most (← readGreed))
            else if c == '\\' then
              let primitive ← readEscape
              readSequence fuel (.single (patternOfPrimitive flags primitive) :: items)
            else if c == '.' then
              let dot ← anyCharacter flags
              readSequence fuel (.single dot :: items)
            else if c == '^' then
              readSequence fuel (.single (.assertion (startAssertion flags)) :: items)
            else if c == '$' then
              readSequence fuel (.single (.assertion (endAssertion flags)) :: items)
            else readSequence fuel (.single (literalPattern flags c) :: items)

def readGroup : Nat → Reader Item
  | 0 => failure
  | fuel + 1 => do
      skipSpace
      let outer ← flags
      let t ← rest
      match t with
      | '?' :: '=' :: _ | '?' :: '!' :: _ | '?' :: '<' :: '=' :: _ | '?' :: '<' :: '!' :: _ =>
        failure
      | '?' :: 'P' :: '<' :: inner | '?' :: '<' :: inner =>
          setRest inner
          let name ← readGroupName
          modify fun s => { s with names := (name, s.groups + 1) :: s.names }
          readCapture fuel outer
      | '?' :: inner =>
          setRest inner
          let (seen, inner) ← readFlags (inner.length + 1) [] false outer
          let c ← current
          bump
          if c == ')' then
            if seen.isEmpty then failure
            else
              setFlags inner
              pure .setting
          else
            setFlags inner
            let body ← readChoice fuel []
            closeGroup outer
            pure (body.around body.pattern)
      | _ => readCapture fuel outer

def readCapture : Nat → Flags → Reader Item
  | 0, _ => failure
  | fuel + 1, outer => do
      let index := (← get).groups + 1
      modify fun s => { s with groups := index }
      let body ← readChoice fuel []
      closeGroup outer
      pure (body.around (.group index body.pattern))

def closeGroup (outer : Flags) : Reader Unit := do
  if (← current) == ')' then
    bump
    setFlags outer
  else failure

end

end Reader

def read (ignoreCase : Bool) (t : Text) : Except PatternError NamedPattern :=
  let flags : Flags := ⟨ignoreCase, false, false, false, true, false, false⟩
  match (Reader.readChoice (4 * t.length + 8) []).run ⟨t, flags, 0, []⟩ with
  | some (item, ⟨[], _, groups, names⟩) =>
      if Reader.depthLimit < item.depth then .error .malformed
      else if item.pattern.fits then .ok ⟨item.pattern, groups, names⟩
      else .error .tooLarge
  | _ => .error .malformed

end BraceTemplate.Pattern
