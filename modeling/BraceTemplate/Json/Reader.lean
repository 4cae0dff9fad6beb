import BraceTemplate.Json.Token

/-!
# Reading JSON

The tokens of a text drive a stack of open arrays and objects.  The stack may
hold at most `maxNesting` of them.
-/

namespace BraceTemplate.Json

def maxNesting : Nat := 127

/-- An open array or object with what it holds so far, in reverse. -/
inductive Frame where
  | array (items : List Json)
  | members (members : List (String × Json))
  /-- An object of which a name has been read and its value has not. -/
  | named (members : List (String × Json)) (name : String)

inductive Expectation where
  | value
  /-- The first item of an array, or its end. -/
  | itemOrEnd
  /-- The first name of an object, or its end. -/
  | nameOrEnd
  /-- A name after a comma. -/
  | name
  | colon
  /-- After a complete value: a comma, or the end of what is open. -/
  | separator (value : Json)

structure Builder where
  stack : List Frame
  expects : Expectation

namespace Builder

def initial : Builder := ⟨[], .value⟩

def give (stack : List Frame) (value : Json) : Builder := ⟨stack, .separator value⟩

def openFrame? (stack : List Frame) (frame : Frame) (expects : Expectation) : Option Builder :=
  if stack.length < maxNesting then some ⟨frame :: stack, expects⟩ else none

def startValue? (stack : List Frame) (token : Token) : Option Builder :=
  match token with
  | .scalar value => some (give stack value)
  | .string s => some (give stack (.string s))
  | .openArray => openFrame? stack (.array []) .itemOrEnd
  | .openObject => openFrame? stack (.members []) .nameOrEnd
  | _ => none

def step? (builder : Builder) (token : Token) : Option Builder :=
  match builder.expects, builder.stack, token with
  | .value, stack, token => startValue? stack token
  | .itemOrEnd, .array _ :: outer, .closeArray => some (give outer (.array []))
  | .itemOrEnd, stack, token => startValue? stack token
  | .nameOrEnd, .members _ :: outer, .closeObject => some (give outer (.object []))
  | .nameOrEnd, .members members :: outer, .string name =>
      some ⟨.named members name :: outer, .colon⟩
  | .name, .members members :: outer, .string name => some ⟨.named members name :: outer, .colon⟩
  | .colon, stack, .colon => some ⟨stack, .value⟩
  | .separator value, .array items :: outer, .comma =>
      some ⟨.array (value :: items) :: outer, .value⟩
  | .separator value, .array items :: outer, .closeArray =>
      some (give outer (.array (value :: items).reverse))
  | .separator value, .named members name :: outer, .comma =>
      some ⟨.members ((name, value) :: members) :: outer, .name⟩
  | .separator value, .named members name :: outer, .closeObject =>
      some (give outer (ofMembers ((name, value) :: members).reverse))
  | _, _, _ => none

def finish? (builder : Builder) : Option Json :=
  match builder.expects, builder.stack with
  | .separator value, [] => some value
  | _, _ => none

end Builder

def ofTokens? (tokens : List Token) : Option Json :=
  (tokens.foldlM Builder.step? Builder.initial).bind Builder.finish?

def read? (t : Text) : Option Json := (tokens? t).bind ofTokens?

end BraceTemplate.Json
