import BraceTemplate.Engine.Basic
import BraceTemplate.Path
import BraceTemplate.Template.Backtick
import BraceTemplate.Template.Node

/-!
# Rendering

A directive is looked up in a fixed order: captured values, includes, the loop
counter, the context itself, and then the path through context, captured values
and globals.  What is found runs through the chain and is substituted.

Every list of nodes is rendered with a budget, the number of further levels
that may be nested in one another.  All that is nested in a directive (the
nodes of its block, an include, an expression between backticks) is rendered
with the budget less one, so rendering is a recursion on the budget alone.
-/

namespace BraceTemplate

def placeholder : String := "???"

structure RenderState (H W : Type) where
  captures : Dictionary (Value H)
  world : W

abbrev Rendering (H W : Type) := ExceptT RenderError (StateM (RenderState H W))

inductive Target (H : Type) where
  /-- The rendered text of an include; a block of the directive does not count. -/
  | inclusion (text : String)
  | sequence (items : List (Value H))
  | value (value : Value H)
  | missing

namespace Target

variable {H : Type}

def ofValue : Value H → Target H
  | .array items => sequence items
  | .undefined => missing
  | v => value v

def toValue : Target H → Value H
  | inclusion text => .string text
  | sequence items => .array items
  | value v => v
  | missing => .undefined

end Target

structure Block where
  children : List Node
  separatorIndex : Option Nat

namespace Render

variable {H W : Type} [HostObject H]

abbrev Nested (H W : Type) := List Node → Value H → Option Iteration → Rendering H W String

def displayed (value : Value H) : String :=
  if value.isUndefined then placeholder else value.display

def concatMap {α : Type} (f : α → Rendering H W String) (items : List α) : Rendering H W String :=
  items.foldlM (fun output item => do return output ++ (← f item)) ""

def pipe (env : Environment H W) (chain : List Step) (value : Value H) : Rendering H W (Value H) :=
  fun state =>
    let (outcome, captures) :=
      Chain.run env.filters env.settings.onFilterError chain value state.captures
    (outcome, { state with captures })

def includeSource (inclusion : Include W) : Rendering H W String := fun state =>
  let (text, world) := inclusion.source state.world
  (.ok text, { state with world })

def target (nested : Nested H W) (env : Environment H W) (directive : Directive)
    (context : Value H) (loop : Option Iteration) : Rendering H W (Target H) := do
  let captures := (← get).captures
  match captures.find? directive.path with
  | some value => pure (.ofValue value)
  | none =>
      match env.includes.find? directive.path with
      | some inclusion => do
          let text ← includeSource inclusion
          return .inclusion (← nested (parseTemplate text.toList) context loop)
      | none =>
          let value? : Option (Value H) :=
            match directive.pathKind with
            | .counter => loop.map fun i => .iteration (i.withSign directive.path)
            | .self => some context
            | .property => Path.resolve? captures env.globals directive.path context
          pure (value?.elim .missing .ofValue)

def sequenceText (nested : Nested H W) (block : Option Block) (items : List (Value H)) :
    Rendering H W String :=
  match block with
  | none => pure (String.join (items.map displayed))
  | some block =>
      let size := items.length
      concatMap
        (fun (item, index) => nested block.children item (some (.start index size)))
        items.zipIdx

def valueText (nested : Nested H W) (block : Option Block) (loop : Option Iteration)
    (value : Value H) : Rendering H W String :=
  match value with
  | .array items => sequenceText nested block items
  | value =>
      match block with
      | none => pure (displayed value)
      | some block =>
          if value.isTruthy then nested block.children value loop else pure placeholder

def conditionHolds (env : Environment H W) (chain : List Step) (value : Value H) :
    Rendering H W Bool :=
  if chain.isEmpty then pure value.isTruthy
  else do return !(← pipe env chain value).isFalse

def branchText (nested : Nested H W) (block : Option Block) (context : Value H)
    (loop : Option Iteration) (holds : Bool) : Rendering H W String :=
  match block with
  | none => pure ""
  | some block =>
      nested
        (if holds then thenBranch block.children block.separatorIndex
        else elseBranch block.children block.separatorIndex)
        context loop

def directiveOf (nested : Nested H W) (env : Environment H W) (opening : Opening)
    (context : Value H) (loop : Option Iteration) : Rendering H W Directive := do
  let body ← Backtick.expand
    (fun expression => nested (parseTemplate (Tag.text ⟨expression⟩)) context loop) opening.body
  pure (.read env.settings.delimiter.toList body opening.selfClosing)

def directiveText (nested : Nested H W) (env : Environment H W) (opening : Opening)
    (block : Option Block) (context : Value H) (loop : Option Iteration) :
    Rendering H W String := do
  let directive ← directiveOf nested env opening context loop
  let found ← target nested env directive context loop
  if directive.conditional then
    let holds ← conditionHolds env directive.chain found.toValue
    branchText nested block context loop holds
  else
    let value ← pipe env directive.chain found.toValue
    match found with
    | .inclusion _ => pure (displayed value)
    | .sequence _ =>
        match value with
        | .array items => sequenceText nested block items
        | other => pure (displayed other)
    | .value _ => valueText nested block loop value
    | .missing => pure (if block.isSome then placeholder else displayed value)

def nodeText (nested : Nested H W) (env : Environment H W) (context : Value H)
    (loop : Option Iteration) : Node → Rendering H W String
  | .literal text => pure (String.ofList text)
  | .separator tag => pure (String.ofList tag.text)
  | .directive opening => directiveText nested env opening none context loop
  | .block opening _ children separatorIndex =>
      directiveText nested env opening (some ⟨children, separatorIndex⟩) context loop

/-- Renders nodes with a budget; without any budget left the depth limit is exceeded. -/
def nodesText (env : Environment H W) : Nat → Nested H W
  | 0, _, _, _ => throw (.depthLimit env.settings.maxDepth)
  | budget + 1, nodes, context, loop =>
      concatMap (nodeText (nodesText env budget) env context loop) nodes

end Render

namespace Engine

variable {H W : Type} [HostObject H]

def finishOutput (settings : Settings) (output : String) : String :=
  if settings.compact then Value.mapText Text.compact output else output

/--
Renders a template.  Gives the text or the error, the engine with the captured
values after the render, and the world.
-/
def render (engine : Engine H W) (world : W) (template : String) (context : Value H) :
    Except RenderError String × Engine H W × W :=
  let limit := engine.settings.maxTemplateSize
  if limit < template.utf8ByteSize then
    (.error (.templateTooLarge template.utf8ByteSize limit), engine, world)
  else
    let (outcome, state) :=
      Render.nodesText engine.toEnvironment engine.settings.maxDepth
        (parseTemplate template.toList) context none ⟨engine.captures, world⟩
    (outcome.map (finishOutput engine.settings),
      { engine with captures := state.captures }, state.world)

def renderWith (engine : Engine H W) (world : W) (template : String) (context : Value H)
    (options : Options H W) : Except RenderError String × Engine H W × W :=
  (engine.configure options).render world template context

end Engine

end BraceTemplate
