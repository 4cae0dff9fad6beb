import BraceTemplate.Filter.Basic
import BraceTemplate.Template.Directive

/-!
# Chains of filters

A chain runs a value through its steps from left to right.  A step `set>name`
captures the value and goes on with the empty text.  What a step that fails
does is up to the policy: the value before it goes on, or the failure ends the
run.
-/

namespace BraceTemplate

inductive FailurePolicy where
  /-- The value before the step goes on. -/
  | passthrough
  /-- The failure is the outcome. -/
  | propagate
  deriving DecidableEq, Repr

/-- Computations that keep the captured values, also when they fail. -/
abbrev Capturing (H ε : Type) := ExceptT ε (StateM (Dictionary (Value H)))

namespace Chain

variable {H : Type}

def captureStep : String := "set"

def capture (value : Value H) (arguments : List String) : Capturing H FilterError (Value H) :=
  let name := String.ofList (Text.trim (arguments.headD "").toList)
  if name.isEmpty then throw (.missingArgument captureStep 1)
  else do
    modify fun (captures : Dictionary (Value H)) => captures.insert name value
    pure (.string "")

def applyStep (filters : Dictionary (Filter H)) (value : Value H) (step : Step) :
    Capturing H FilterError (Value H) :=
  if step.name = captureStep then capture value step.arguments
  else match filters.find? step.name with
    | some filter => liftExcept (filter value step.arguments)
    | none => throw (.unknown step.name)
where
  liftExcept (outcome : Except FilterError (Value H)) : Capturing H FilterError (Value H) :=
    fun captures => (outcome, captures)

def runStep (filters : Dictionary (Filter H)) (policy : FailurePolicy) (value : Value H)
    (step : Step) : Capturing H RenderError (Value H) := fun captures =>
  match applyStep filters value step captures with
  | (.ok next, captures) => (.ok next, captures)
  | (.error cause, captures) =>
      match policy with
      | .passthrough => (.ok value, captures)
      | .propagate => (.error (.filter step.name cause), captures)

def run (filters : Dictionary (Filter H)) (policy : FailurePolicy) (chain : List Step)
    (value : Value H) : Capturing H RenderError (Value H) :=
  chain.foldlM (runStep filters policy) value

end Chain

end BraceTemplate
