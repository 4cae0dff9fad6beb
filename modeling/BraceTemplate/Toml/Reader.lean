import BraceTemplate.Toml.Scalar
import BraceTemplate.Toml.Table

/-!
# Reading TOML

A document is a list of assignments and headers, each on a line of its own.
Readers take the text that is left and give a result and the rest, or fail;
where they call each other in circles they are bounded by the length of the
text.  Dates are not read: this is the reader of the undated library, and
configurations may be read with another.
-/

namespace BraceTemplate.Toml

abbrev Reader := StateT Text Option

namespace Reader

/-! ## Blanks and comments -/

def isSpace (c : Char) : Bool := c == ' ' || c == '\t'

def isControl (c : Char) : Bool := (c.toNat < 0x20 && c != '\t') || c.toNat == 0x7F

def skipSpaces : Reader Unit := modify fun t => t.dropWhile isSpace

def current? : Reader (Option Char) := return (← get).head?

def bump : Reader Unit := modify fun t => t.drop 1

def expect (c : Char) : Reader Unit := do
  if (← current?) == some c then bump else failure

def skipComment : Reader Unit := do
  if (← current?) == some '#' then
    let t ← get
    let comment := t.takeWhile fun c => c != '\n' && c != '\r'
    if comment.any isControl then failure else set (t.drop comment.length)

def afterLineEnd? : Text → Option Text
  | '\n' :: rest => some rest
  | '\r' :: '\n' :: rest => some rest
  | _ => none

def skipLines : Nat → Reader Unit
  | 0 => failure
  | fuel + 1 => do
      skipSpaces
      skipComment
      match afterLineEnd? (← get) with
      | some rest =>
          set rest
          skipLines fuel
      | none => pure ()

def skipAllLines : Reader Unit := do skipLines ((← get).length + 1)

/-! ## Strings -/

def readCode (count : Nat) : Reader Char := do
  let t ← get
  let digits := t.take count
  if digits.length = count ∧ digits.all (Text.hexDigit? · |>.isSome) then
    set (t.drop count)
    Text.charOfCode? (Text.hexValue digits)
  else failure

def readEscape : Reader Char := do
  let some c ← current? | failure
  bump
  if c == 'b' then pure '\x08'
  else if c == 't' then pure '\t'
  else if c == 'n' then pure '\n'
  else if c == 'f' then pure '\x0c'
  else if c == 'r' then pure '\r'
  else if c == 'e' then pure '\x1b'
  else if c == '\x22' || c == '\\' then pure c
  else if c == 'x' then readCode 2
  else if c == 'u' then readCode 4
  else if c == 'U' then readCode 8
  else failure

def readBasic : Nat → Text → Reader String
  | 0, _ => failure
  | fuel + 1, seen => do
      let some c ← current? | failure
      bump
      if c == '\x22' then pure (String.ofList seen.reverse)
      else if c == '\\' then
        let escaped ← readEscape
        readBasic fuel (escaped :: seen)
      else if isControl c then failure
      else readBasic fuel (c :: seen)

def readLiteral : Reader String := do
  let t ← get
  let inner := t.takeWhile fun c => c != '\x27' && !isControl c
  set (t.drop inner.length)
  expect '\x27'
  pure (String.ofList inner)

def afterLineFold? (t : Text) : Option Text :=
  let rest := t.dropWhile isSpace
  (afterLineEnd? rest).map fun rest => rest.dropWhile fun c => isSpace c || c == '\n' || c == '\r'

/-- Reads a string over several lines up to three quotes; it may end with two quotes more. -/
def readLong (quote : Char) (escapes : Bool) : Nat → Text → Reader String
  | 0, _ => failure
  | fuel + 1, seen => do
      let t ← get
      let quotes := (t.takeWhile (· == quote)).length
      if 3 ≤ quotes then
        let kept := min (quotes - 3) 2
        set (t.drop (kept + 3))
        pure (String.ofList (seen.reverse ++ List.replicate kept quote))
      else
        match afterLineEnd? t with
        | some rest =>
            set rest
            readLong quote escapes fuel ((t.take (t.length - rest.length)).reverse ++ seen)
        | none =>
            let some c := t.head? | failure
            bump
            if c == '\\' && escapes then
              match afterLineFold? (← get) with
              | some rest =>
                  set rest
                  readLong quote escapes fuel seen
              | none =>
                  let escaped ← readEscape
                  readLong quote escapes fuel (escaped :: seen)
            else if isControl c then failure
            else readLong quote escapes fuel (c :: seen)

def readLongString (quote : Char) (escapes : Bool) : Reader String := do
  let t ← get
  let t := (afterLineEnd? t).getD t
  set t
  readLong quote escapes (t.length + 1) []

/-! ## Keys -/

def isKeyCharacter (c : Char) : Bool := c.isAlphanum || c == '_' || c == '-'

def readSimpleKey : Reader String := do
  let t ← get
  match t with
  | '\x22' :: rest =>
      set rest
      readBasic t.length []
  | '\x27' :: rest =>
      set rest
      readLiteral
  | t =>
      let key := t.takeWhile isKeyCharacter
      if key.isEmpty then failure
      else
        set (t.drop key.length)
        pure (String.ofList key)

/-- Reads keys between dots: those that lead to a table, in reverse, and the last one. -/
def readKeys : Nat → List String → Reader (List String × String)
  | 0, _ => failure
  | fuel + 1, path => do
      skipSpaces
      let key ← readSimpleKey
      skipSpaces
      if (← current?) == some '.' then
        bump
        readKeys fuel (key :: path)
      else pure (path, key)

def readPath : Reader (List String × String) := do
  let (path, key) ← readKeys ((← get).length + 1) []
  pure (path.reverse, key)

/-! ## Values -/

def maxNesting : Nat := 80

def isScalarCharacter (c : Char) : Bool :=
  c.isAlphanum || c == '_' || c == '-' || c == '+' || c == '.'

def readScalar : Reader Json := do
  let t ← get
  let written := t.takeWhile isScalarCharacter
  set (t.drop written.length)
  readScalar? written

mutual

def readValue : Nat → Nat → Reader Json
  | 0, _ => failure
  | fuel + 1, depth => do
      let t ← get
      match t with
      | '\x22' :: '\x22' :: '\x22' :: rest =>
          set rest
          return .string (← readLongString '\x22' true)
      | '\x27' :: '\x27' :: '\x27' :: rest =>
          set rest
          return .string (← readLongString '\x27' false)
      | '\x22' :: rest =>
          set rest
          return .string (← readBasic t.length [])
      | '\x27' :: rest =>
          set rest
          return .string (← readLiteral)
      | '[' :: rest =>
          if maxNesting ≤ depth then failure
          else
            set rest
            readItems fuel (depth + 1) []
      | '{' :: rest =>
          if maxNesting ≤ depth then failure
          else
            set rest
            readMembers fuel (depth + 1) .root
      | _ => readScalar

def readItems : Nat → Nat → List Json → Reader Json
  | 0, _, _ => failure
  | fuel + 1, depth, items => do
      skipAllLines
      if (← current?) == some ']' then
        bump
        pure (.array items.reverse)
      else
        let item ← readValue fuel depth
        skipAllLines
        if (← current?) == some ',' then
          bump
          readItems fuel depth (item :: items)
        else
          expect ']'
          pure (.array (item :: items).reverse)

def readMembers : Nat → Nat → Table → Reader Json
  | 0, _, _ => failure
  | fuel + 1, depth, table => do
      skipAllLines
      if (← current?) == some '}' then
        bump
        pure table.toJson
      else
        let (path, key) ← readPath
        expect '='
        skipSpaces
        let document ← readValue fuel depth
        let table ← table.assign? path key document
        skipAllLines
        if (← current?) == some ',' then
          bump
          readMembers fuel depth table
        else
          expect '}'
          pure table.toJson

end

/-! ## Documents -/

structure Document where
  header : List String
  root : Table

def readHeader (d : Document) : Reader Document := do
  if (← current?) == some '[' then
    bump
    let (path, key) ← readPath
    expect ']'
    expect ']'
    let root ← d.root.openElement? path key
    pure ⟨path ++ [key], root⟩
  else
    let (path, key) ← readPath
    expect ']'
    let root ← d.root.openTable? path key
    pure ⟨path ++ [key], root⟩

def readAssignment (d : Document) : Reader Document := do
  let (path, key) ← readPath
  expect '='
  skipSpaces
  let document ← readValue (2 * (← get).length + 4) 0
  let root ← d.root.update? false (Table.assign? path key document) d.header
  pure { d with root }

def readLines : Nat → Document → Reader Json
  | 0, _ => failure
  | fuel + 1, d => do
      skipAllLines
      match (← get) with
      | [] => pure d.root.toJson
      | c :: rest =>
          let d ←
            if c == '[' then do
              set rest
              readHeader d
            else readAssignment d
          skipSpaces
          skipComment
          let t ← get
          if t.isEmpty then pure d.root.toJson
          else match afterLineEnd? t with
            | some rest =>
                set rest
                readLines fuel d
            | none => failure

end Reader

/-- Reads a document; a mark of byte order at its start does not count. -/
def read? (t : Text) : Option Json :=
  let t :=
    match t with
    | c :: rest => if c.toNat == 0xFEFF then rest else c :: rest
    | [] => []
  ((Reader.readLines (t.length + 1) ⟨[], .root⟩).run t).map Prod.fst

end BraceTemplate.Toml
