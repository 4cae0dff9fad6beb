import BraceTemplate.Engine.Basic
import BraceTemplate.Json.Reader
import BraceTemplate.Toml.Library
import BraceTemplate.Value.Equality

/-!
# Configurations

A configuration gives the settings, globals and includes that an engine starts
with.  Every field may be absent and then has its initial value; fields of
other names do not count.
-/

namespace BraceTemplate

structure Config (H : Type) where
  settings : Settings
  globals : Dictionary (Value H)
  includes : Dictionary String

namespace Config

variable {H : Type}

def initial : Config H := ⟨.initial, [], []⟩

/-! ## Reading -/

def field {α : Type} (document : Json) (name : String) (initial : α) (read : Json → Option α) :
    Option α :=
  match document.member? name with
  | some value => read value
  | none => some initial

def readString? : Json → Option String
  | .string s => some s
  | _ => none

def readBool? : Json → Option Bool
  | .bool b => some b
  | _ => none

def readLimit? : Json → Option Nat
  | .integer n => if 0 ≤ n ∧ n < Int.pow 2 64 then some n.toNat else none
  | _ => none

def policyNamed? (name : String) : Option FailurePolicy :=
  if name = "passthrough" then some .passthrough
  else if name = "propagate" then some .propagate
  else none

/-- A policy by its name, alone or as the only member of an object whose value says nothing. -/
def readPolicy? (saysNothing : Json → Bool) : Json → Option FailurePolicy
  | .string name => policyNamed? name
  | .object [(name, value)] => if saysNothing value then policyNamed? name else none
  | _ => none

def readGlobals? : Json → Option (Dictionary (Value H))
  | .object members => some (members.map fun member => (member.1, .ofJson member.2))
  | _ => none

def readIncludes? : Json → Option (Dictionary String)
  | .object members => members.mapM fun member => (readString? member.2).map (member.1, ·)
  | _ => none

def ofDocument? (saysNothing : Json → Bool) (document : Json) : Option (Config H) := do
  guard (Toml.isTable document)
  let delimiter ← field document "delimiter" Settings.initial.delimiter readString?
  let compact ← field document "compact" Settings.initial.compact readBool?
  let onFilterError ←
    field document "on_filter_error" Settings.initial.onFilterError (readPolicy? saysNothing)
  let maxDepth ← field document "max_depth" Settings.initial.maxDepth readLimit?
  let maxTemplateSize ←
    field document "max_template_size" Settings.initial.maxTemplateSize readLimit?
  let globals ← field document "globals" [] readGlobals?
  let includes ← field document "includes" [] readIncludes?
  some ⟨⟨delimiter, compact, onFilterError, maxDepth, maxTemplateSize⟩, globals, includes⟩

def isNull : Json → Bool
  | .null => true
  | _ => false

def isEmptyTable : Json → Bool
  | .object [] => true
  | _ => false

def ofJson? (document : Json) : Except ConfigError (Config H) :=
  match ofDocument? isNull document with
  | some config => .ok config
  | none => .error .parse

def ofToml [Toml.Library] (text : String) : Except ConfigError (Config H) :=
  match (Toml.Library.read? text).bind (ofDocument? isEmptyTable) with
  | some config => do
      config.settings.check
      pure config
  | none => .error .parse

/-! ## Writing -/

def policyName : FailurePolicy → String
  | .passthrough => "passthrough"
  | .propagate => "propagate"

def toJson [HostObject H] (config : Config H) : Json :=
  .object
    [("delimiter", .string config.settings.delimiter),
      ("compact", .bool config.settings.compact),
      ("on_filter_error", .string (policyName config.settings.onFilterError)),
      ("max_depth", .integer config.settings.maxDepth),
      ("max_template_size", .integer config.settings.maxTemplateSize),
      ("globals", .object (config.globals.map fun entry => (entry.1, entry.2.toJson))),
      ("includes", .object (config.includes.map fun entry => (entry.1, .string entry.2)))]

def toToml? [Toml.Library] [HostObject H] (config : Config H) : Option String :=
  Toml.Library.write? config.toJson

def equal [BEq H] (a b : Config H) : Bool :=
  a.settings == b.settings && Value.equal (.map a.globals) (.map b.globals) &&
    a.includes.length == b.includes.length &&
    a.includes.all fun entry => b.includes.find? entry.1 == some entry.2

def roundTrips [Toml.Library] [HostObject H] [BEq H] (config : Config H) : Bool :=
  match config.toToml? with
  | some text =>
      match ofToml text with
      | .ok other => config.equal other
      | .error _ => false
  | none => false

end Config

namespace Engine

variable {H W : Type} [HostObject H]

def ofConfig (config : Config H) : Except ConfigError (Engine H W) := do
  config.settings.check
  pure
    ⟨⟨Registry.builtin, config.includes.map fun entry => (entry.1, .text entry.2), config.globals,
      config.settings⟩, []⟩

end Engine

end BraceTemplate
