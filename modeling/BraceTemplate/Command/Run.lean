import BraceTemplate.Command.Arguments
import BraceTemplate.Config
import BraceTemplate.Engine.Render

/-!
# Running the command

The command renders a template file against a context file.  A configuration
file is applied first; options and definitions are merged over it.
-/

namespace BraceTemplate.Command

structure Sources where
  /-- The text of a file; none if it cannot be read. -/
  file : String → Option String
  standardInput : Option String

inductive Failure where
  | usage (cause : UsageError)
  | configFile
  | config (cause : ConfigError)
  | contextFormat (path : String)
  | contextParse (path : String)
  | loadFile (path : String)
  | readStandardInput
  | render (cause : RenderError)
  deriving DecidableEq, Repr

namespace Failure

def message : Failure → String
  | usage _ => "Usage: markup [OPTIONS] <TEMPLATE>"
  | configFile => "Configuration error: Failed to read configuration file"
  | config cause => "Configuration error: " ++ cause.message
  | contextFormat path =>
      "Unsupported context format for " ++ quotePath path ++ ": expected a .json or .toml file"
  | contextParse path => "Failed to parse context file " ++ quotePath path
  | loadFile path => "Failed to load file " ++ quotePath path ++ "."
  | readStandardInput => "Failed to read the template from stdin."
  | render cause => "Render failed: " ++ cause.message

end Failure

inductive ContextFormat where
  | json | toml
  deriving DecidableEq, Repr

def fileName? (path : Text) : Option Text :=
  match ((Text.fields (· == '/') path).filter fun part => part != [] && part != ['.']).getLast? with
  | some name => if name == ['.', '.'] then none else some name
  | none => none

/-- What stands behind the last point of a file name that does not start with it. -/
def extension? (path : Text) : Option Text := do
  let name ← fileName? path
  let fields := Text.fields (· == '.') name
  if 2 < fields.length || (fields.length = 2 && fields.head? != some []) then fields.getLast?
  else none

def contextFormat? (path : String) : Option ContextFormat :=
  match (extension? path.toList).map fun t => String.ofList (t.map Char.toLower) with
  | some "json" => some .json
  | some "toml" => some .toml
  | _ => none

variable {H W : Type} [HostObject H]

def readGlobal (text : String) : Value H :=
  match Json.read? text.toList with
  | some document => .ofJson document
  | none => .string text

def parseContext? [Toml.Library] (format : ContextFormat) (text : String) : Option (Value H) :=
  match format with
  | .json => (Json.read? text.toList).map .ofJson
  | .toml => (Toml.Library.read? text).map .ofJson

def optionsOf (a : Arguments) : Options H W :=
  { Options.none with
    globals := .ofList (a.defines.map fun definition => (definition.1, readGlobal definition.2))
    delimiter := a.delimiter
    compact := if a.compact then some true else none }

def loadConfig [Toml.Library] (sources : Sources) (path : Option String) :
    Except Failure (Config H) :=
  match path with
  | none => .ok .initial
  | some path =>
      match sources.file path with
      | none => .error .configFile
      | some text => (Config.ofToml text).mapError .config

def buildEngine (config : Config H) (a : Arguments) : Except Failure (Engine H W) := do
  let engine ← (Engine.ofConfig config).mapError .config
  let engine := engine.configure (optionsOf a)
  pure (if a.strictFilters then engine.setPolicy .propagate else engine)

def loadTemplate (sources : Sources) (path : String) : Except Failure String :=
  if path = "-" then
    match sources.standardInput with
    | some text => .ok text
    | none => .error .readStandardInput
  else match sources.file path with
    | some text => .ok text
    | none => .error (.loadFile path)

def loadContext [Toml.Library] (sources : Sources) (path : Option String) :
    Except Failure (Value H) :=
  match path with
  | none => .ok (.map [])
  | some path =>
      match contextFormat? path with
      | none => .error (.contextFormat path)
      | some format =>
          match sources.file path with
          | none => .error (.loadFile path)
          | some text =>
              match parseContext? format text with
              | some context => .ok context
              | none => .error (.contextParse path)

def document [Toml.Library] (sources : Sources) (a : Arguments) : Except Failure String := do
  let config : Config Empty ← loadConfig sources a.config
  let engine : Engine Empty Unit ← buildEngine config a
  let template ← loadTemplate sources (a.template.getD "")
  let context ← loadContext sources a.context
  (engine.render () template context).1.mapError .render

def run [Toml.Library] (sources : Sources) (arguments : List String) : Except Failure String := do
  let a ← (readArguments arguments).mapError .usage
  document sources a

end BraceTemplate.Command
