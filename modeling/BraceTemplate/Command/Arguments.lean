import BraceTemplate.Text.Split

/-!
# Command-line arguments

The arguments are read from left to right.  An option waits for its value,
attached or in the next argument; what waits is settled, checked and entered,
when the next option or the template comes, or at the end.
-/

namespace BraceTemplate.Command

inductive UsageError where
  | missingRequiredArgument
  | displayHelp
  /-- A value is not of the required form. -/
  | valueValidation
  | unknownArgument
  /-- An option that may be given once is repeated. -/
  | argumentConflict
  /-- A value is absent or empty. -/
  | invalidValue
  /-- A value is attached to an option that takes none. -/
  | tooManyValues
  deriving DecidableEq, Repr

structure Arguments where
  template : Option String
  context : Option String
  config : Option String
  delimiter : Option String
  compact : Bool
  strictFilters : Bool
  defines : List (String × String)
  deriving DecidableEq, Repr

namespace Arguments

def none : Arguments := ⟨.none, .none, .none, .none, false, false, []⟩

end Arguments

def readDefinition (text : String) : Except String (String × String) :=
  match Text.cut? ['='] text.toList with
  | some (name, value) => .ok (String.ofList name, String.ofList value)
  | none => .error ("invalid KEY=VALUE: no \x60=\x60 found in \x60" ++ text ++ "\x60")

inductive Valued where
  | template | context | config | delimiter | define
  deriving DecidableEq, Repr

inductive Switch where
  | compact | strictFilters | help
  deriving DecidableEq, Repr

inductive Named where
  | valued (target : Valued)
  | switch (target : Switch)
  deriving DecidableEq, Repr

def named? (name : String) : Option Named :=
  if name = "context" then some (.valued .context)
  else if name = "config" then some (.valued .config)
  else if name = "delimiter" then some (.valued .delimiter)
  else if name = "compact" then some (.switch .compact)
  else if name = "strict-filters" then some (.switch .strictFilters)
  else if name = "help" then some (.switch .help)
  else none

def lettered? (letter : Char) : Option Named :=
  if letter == 'c' then some (.valued .context)
  else if letter == 'D' then some (.valued .define)
  else if letter == 'h' then some (.switch .help)
  else none

def enterPath (present : Option String) (value : String) : Except UsageError (Option String) :=
  if present.isSome then .error .argumentConflict
  else if value.isEmpty then .error .invalidValue
  else .ok (some value)

def enter (a : Arguments) (target : Valued) (value : String) : Except UsageError Arguments :=
  match target with
  | .template => do return { a with template := ← enterPath a.template value }
  | .context => do return { a with context := ← enterPath a.context value }
  | .config => do return { a with config := ← enterPath a.config value }
  | .delimiter =>
      if a.delimiter.isSome then .error .argumentConflict
      else .ok { a with delimiter := some value }
  | .define =>
      match readDefinition value with
      | .ok definition => .ok { a with defines := a.defines ++ [definition] }
      | .error _ => .error .valueValidation

structure ArgumentReader where
  arguments : Arguments
  /-- What waits for its value, or has one that is not entered yet. -/
  pending : Option (Valued × Option String)
  /-- Whether everything else is a template, whatever it starts with. -/
  trailing : Bool
  templates : Nat

namespace ArgumentReader

def initial : ArgumentReader := ⟨.none, .none, false, 0⟩

/-- Enters what is pending; a value that never came is an error. -/
def settle (r : ArgumentReader) : Except UsageError ArgumentReader :=
  match r.pending with
  | .none => .ok r
  | some (_, .none) => .error .invalidValue
  | some (target, some value) => do
      let arguments ← enter r.arguments target value
      pure { r with arguments, pending := .none }

def turnOn (r : ArgumentReader) (target : Switch) : Except UsageError ArgumentReader := do
  let r ← r.settle
  match target with
  | .help => .error .displayHelp
  | .compact =>
      if r.arguments.compact then .error .argumentConflict
      else pure { r with arguments := { r.arguments with compact := true } }
  | .strictFilters =>
      if r.arguments.strictFilters then .error .argumentConflict
      else pure { r with arguments := { r.arguments with strictFilters := true } }

def take (r : ArgumentReader) (target : Valued) (attached : Option String) :
    Except UsageError ArgumentReader := do
  let r ← r.settle
  match attached with
  | some value => do
      let arguments ← enter r.arguments target value
      pure { r with arguments }
  | .none => pure { r with pending := some (target, .none) }

def readName (r : ArgumentReader) (t : Text) : Except UsageError ArgumentReader :=
  let (name, attached) :=
    match Text.cut? ['='] t with
    | some (name, value) => (name, some (String.ofList value))
    | .none => (t, .none)
  match named? (String.ofList name) with
  | some (.valued target) => r.take target attached
  | some (.switch target) => if attached.isSome then .error .tooManyValues else r.turnOn target
  | .none => .error .unknownArgument

def readLetters (r : ArgumentReader) : Text → Except UsageError ArgumentReader
  | [] => .ok r
  | letter :: rest =>
      match lettered? letter with
      | some (.valued target) =>
          match rest with
          | [] => r.take target .none
          | '=' :: value => r.take target (some (String.ofList value))
          | value => r.take target (some (String.ofList value))
      | some (.switch target) => do
          let r ← r.turnOn target
          readLetters r rest
      | .none => .error .unknownArgument

def readValue (r : ArgumentReader) (argument : String) : Except UsageError ArgumentReader :=
  match r.pending, r.trailing with
  | some (target, .none), false => .ok { r with pending := some (target, some argument) }
  | _, _ =>
      if r.templates = 0 then do
        let r ← r.settle
        pure { r with pending := some (.template, some argument), templates := 1 }
      else .error .unknownArgument

def read (r : ArgumentReader) (argument : String) : Except UsageError ArgumentReader :=
  if r.trailing then r.readValue argument
  else match argument.toList with
    | ['-', '-'] => .ok { r with trailing := true }
    | '-' :: '-' :: rest => r.readName rest
    | '-' :: letter :: rest => r.readLetters (letter :: rest)
    | _ => r.readValue argument

end ArgumentReader

def readArguments (arguments : List String) : Except UsageError Arguments := do
  let r ← arguments.foldlM ArgumentReader.read .initial
  let r ← r.settle
  if r.arguments.template.isNone then .error .missingRequiredArgument else pure r.arguments

end BraceTemplate.Command
