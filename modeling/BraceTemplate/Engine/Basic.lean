import BraceTemplate.Chain
import BraceTemplate.Filter.Registry

/-!
# Engines

An engine holds what renders share: filters, includes, globals, settings and
the values captured so far.  Entries are only ever added or replaced.

An include is a text or a producer of texts.  A producer may depend on a world
of type `W`, which every call can change.
-/

namespace BraceTemplate

inductive Include (W : Type) where
  | text (source : String)
  | producer (produce : W → String × W)

namespace Include

variable {W : Type}

def source (inclusion : Include W) (world : W) : String × W :=
  match inclusion with
  | text source => (source, world)
  | producer produce => produce world

def diagnostic : Include W → String
  | text source => "Text(" ++ quote source ++ ")"
  | producer _ => "Producer(..)"

end Include

structure Settings where
  /-- Stands between the name of a filter and its arguments. -/
  delimiter : String
  /-- Whether blanks between tags of markup are dropped from the output. -/
  compact : Bool
  onFilterError : FailurePolicy
  maxDepth : Nat
  /-- In bytes. -/
  maxTemplateSize : Nat
  deriving DecidableEq, Repr

namespace Settings

def initial : Settings := ⟨">", false, .passthrough, 64, 1024 * 1024⟩

def check (settings : Settings) : Except ConfigError Unit :=
  if settings.delimiter.isEmpty then .error (.invalid "delimiter" "must not be empty")
  else if settings.maxDepth = 0 then .error (.invalid "max_depth" "must be at least 1")
  else .ok ()

end Settings

/-- What a render looks up and never changes. -/
structure Environment (H W : Type) where
  filters : Registry H
  includes : Dictionary (Include W)
  globals : Dictionary (Value H)
  settings : Settings

structure Engine (H W : Type) extends Environment H W where
  captures : Dictionary (Value H)

structure Options (H W : Type) where
  filters : Registry H
  includes : Dictionary (Include W)
  globals : Dictionary (Value H)
  delimiter : Option String
  compact : Option Bool

namespace Options

def none {H W : Type} : Options H W := ⟨[], [], [], .none, .none⟩

end Options

namespace Engine

variable {H W : Type} [HostObject H]

def initial : Engine H W := ⟨⟨Registry.builtin, [], [], .initial⟩, []⟩

/-- Merges options; an empty delimiter counts as absent. -/
def configure (engine : Engine H W) (options : Options H W) : Engine H W :=
  { engine with
    filters := engine.filters.merge options.filters
    includes := engine.includes.merge options.includes
    globals := engine.globals.merge options.globals
    settings :=
      { engine.settings with
        delimiter := (options.delimiter.filter (!·.isEmpty)).getD engine.settings.delimiter
        compact := options.compact.getD engine.settings.compact } }

def registerFilter (engine : Engine H W) (name : String) (filter : Filter H) : Engine H W :=
  { engine with filters := engine.filters.insert name filter }

def registerInclude (engine : Engine H W) (name : String) (inclusion : Include W) : Engine H W :=
  { engine with includes := engine.includes.insert name inclusion }

def setGlobal (engine : Engine H W) (name : String) (value : Value H) : Engine H W :=
  { engine with globals := engine.globals.insert name value }

def setPolicy (engine : Engine H W) (policy : FailurePolicy) : Engine H W :=
  { engine with settings := { engine.settings with onFilterError := policy } }

def clearCaptures (engine : Engine H W) : Engine H W := { engine with captures := [] }

end Engine

end BraceTemplate
