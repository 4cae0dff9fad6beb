import BraceTemplate.Json.Number
import BraceTemplate.Text.Hexadecimal

/-!
# The tokens of a JSON text

The text is read in one pass over its characters.  Between tokens the lexer
remembers nothing; inside a string or a bare word it remembers what it has
read, in reverse.
-/

namespace BraceTemplate.Json

inductive Token where
  | openArray | closeArray | openObject | closeObject | comma | colon
  | string (s : String)
  | scalar (value : Json)

namespace Token

def isSpace (c : Char) : Bool := c == ' ' || c == '\t' || c == '\n' || c == '\r'

def ofPunctuation? (c : Char) : Option Token :=
  if c == '[' then some .openArray
  else if c == ']' then some .closeArray
  else if c == '{' then some .openObject
  else if c == '}' then some .closeObject
  else if c == ',' then some .comma
  else if c == ':' then some .colon
  else none

def ofWord? (t : Text) : Option Token :=
  if t == ['n', 'u', 'l', 'l'] then some (.scalar .null)
  else if t == ['t', 'r', 'u', 'e'] then some (.scalar (.bool true))
  else if t == ['f', 'a', 'l', 's', 'e'] then some (.scalar (.bool false))
  else (readNumber? t).map .scalar

end Token

inductive Position where
  | between
  | word (seen : Text)
  | string (seen : Text)
  | escape (seen : Text)
  /-- Inside the four digits of a code unit; `high` is the unit of the pair that it completes. -/
  | unit (seen : Text) (high : Option Nat) (digits value : Nat)
  /-- After the first unit of a pair. -/
  | halfPair (seen : Text) (high : Nat)
  /-- After the first unit of a pair and a backslash. -/
  | halfPairEscape (seen : Text) (high : Nat)

structure Lexer where
  position : Position
  tokens : List Token

namespace Lexer

def initial : Lexer := ⟨.between, []⟩

def push (tokens : List Token) (token : Token) : Lexer := ⟨.between, token :: tokens⟩

def startToken (tokens : List Token) (c : Char) : Lexer :=
  if Token.isSpace c then ⟨.between, tokens⟩
  else if c == '\x22' then ⟨.string [], tokens⟩
  else match Token.ofPunctuation? c with
    | some token => push tokens token
    | none => ⟨.word [c], tokens⟩

def endsWord (c : Char) : Bool :=
  Token.isSpace c || c == '\x22' || (Token.ofPunctuation? c).isSome

def simpleEscape? (c : Char) : Option Char :=
  if c == '\x22' || c == '\\' || c == '/' then some c
  else if c == 'b' then some '\x08'
  else if c == 'f' then some '\x0c'
  else if c == 'n' then some '\n'
  else if c == 'r' then some '\r'
  else if c == 't' then some '\t'
  else none

def finishUnit? (tokens : List Token) (seen : Text) (high : Option Nat) (unit : Nat) :
    Option Lexer :=
  match high with
  | none =>
      if 0xD800 ≤ unit && unit < 0xDC00 then some ⟨.halfPair seen unit, tokens⟩
      else if 0xDC00 ≤ unit && unit < 0xE000 then none
      else some ⟨.string (Char.ofNat unit :: seen), tokens⟩
  | some high =>
      if 0xDC00 ≤ unit && unit < 0xE000 then
        let code := 0x10000 + (high - 0xD800) * 0x400 + (unit - 0xDC00)
        some ⟨.string (Char.ofNat code :: seen), tokens⟩
      else none

def step? (lexer : Lexer) (c : Char) : Option Lexer :=
  match lexer.position with
  | .between => some (startToken lexer.tokens c)
  | .word seen =>
      if endsWord c then
        (Token.ofWord? seen.reverse).map fun token => startToken (token :: lexer.tokens) c
      else some ⟨.word (c :: seen), lexer.tokens⟩
  | .string seen =>
      if c == '\x22' then some (push lexer.tokens (.string (String.ofList seen.reverse)))
      else if c == '\\' then some ⟨.escape seen, lexer.tokens⟩
      else if c.toNat < 0x20 then none
      else some ⟨.string (c :: seen), lexer.tokens⟩
  | .escape seen =>
      if c == 'u' then some ⟨.unit seen none 0 0, lexer.tokens⟩
      else (simpleEscape? c).map fun c => ⟨.string (c :: seen), lexer.tokens⟩
  | .unit seen high digits value =>
      (Text.hexDigit? c).bind fun digit =>
        if digits = 3 then finishUnit? lexer.tokens seen high (value * 16 + digit)
        else some ⟨.unit seen high (digits + 1) (value * 16 + digit), lexer.tokens⟩
  | .halfPair seen high =>
      if c == '\\' then some ⟨.halfPairEscape seen high, lexer.tokens⟩ else none
  | .halfPairEscape seen high =>
      if c == 'u' then some ⟨.unit seen (some high) 0 0, lexer.tokens⟩ else none

def finish? (lexer : Lexer) : Option (List Token) :=
  match lexer.position with
  | .between => some lexer.tokens.reverse
  | .word seen => (Token.ofWord? seen.reverse).map fun token => (token :: lexer.tokens).reverse
  | _ => none

end Lexer

def tokens? (t : Text) : Option (List Token) :=
  (t.foldlM Lexer.step? Lexer.initial).bind Lexer.finish?

end BraceTemplate.Json
