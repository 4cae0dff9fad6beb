import BraceTemplate.Pattern.Basic

/-!
# Matching machines

A pattern is compiled to a program.  The machine reads the text once and keeps
the places in the program at which it may be, the preferred ones first; of two
ways to the same place only the preferred one is kept, so a step takes time
proportional to the program.
-/

namespace BraceTemplate

open Text

inductive Instruction where
  | char (c : Char) (next : Nat)
  | chars (set : CodeSet) (next : Nat)
  | assertion (a : Assertion) (next : Nat)
  /-- Remembers the position in a slot. -/
  | save (slot next : Nat)
  | split (preferred other : Nat)
  | accept

def Instruction.step? (instruction : Instruction) (c : Char) : Option Nat :=
  match instruction with
  | char expected next => if c == expected then some next else none
  | chars set next => if set.contains c.toNat then some next else none
  | _ => none

abbrev Program := Array Instruction

/-- Adds the code of a body that continues at a place; gives the place where the body starts. -/
abbrev Emitter := Nat → Program → Nat × Program

namespace Program

def add (instruction : Instruction) (program : Program) : Nat × Program :=
  (program.size, program.push instruction)

def branch (greedy : Bool) (body past : Nat) : Instruction :=
  if greedy then .split body past else .split past body

def repeated (emit : Emitter) : Nat → Emitter
  | 0, next, program => (next, program)
  | count + 1, next, program =>
      let (start, program) := emit next program
      repeated emit count start program

def optional (greedy : Bool) (emit : Emitter) : Nat → Emitter
  | 0, next, program => (next, program)
  | count + 1, next, program =>
      let (rest, program) := optional greedy emit count next program
      let (start, program) := emit rest program
      add (branch greedy start next) program

def again (greedy : Bool) (emit : Emitter) (next : Nat) (program : Program) : Nat × Nat × Program :=
  let (place, program) := add .accept program
  let (start, program) := emit place program
  (place, start, program.setIfInBounds place (branch greedy start next))

def emitText : Text → Emitter
  | [], next, program => (next, program)
  | c :: rest, next, program =>
      let (behind, program) := emitText rest next program
      add (.char c behind) program

mutual

def emitPattern : Pattern → Emitter
  | .empty, next, program => (next, program)
  | .literal t, next, program => emitText t next program
  | .chars set, next, program => add (.chars set next) program
  | .assertion a, next, program => add (.assertion a next) program
  | .group index body, next, program =>
      let (close, program) := add (.save (2 * index + 1) next) program
      let (start, program) := emitPattern body close program
      add (.save (2 * index) start) program
  | .sequence items, next, program => emitSequence items next program
  | .choice alternatives, next, program => emitChoice alternatives next program
  | .repetition least (some most) greedy body, next, program =>
      let (start, program) := optional greedy (emitPattern body) (most - least) next program
      repeated (emitPattern body) least start program
  | .repetition 0 none greedy body, next, program =>
      let (place, start, program) := again greedy (emitPattern body) next program
      if body.consumes then (place, program) else add (branch greedy start next) program
  | .repetition (least + 1) none greedy body, next, program =>
      let (_, start, program) := again greedy (emitPattern body) next program
      repeated (emitPattern body) least start program

def emitSequence : List Pattern → Emitter
  | [], next, program => (next, program)
  | item :: rest, next, program =>
      let (middle, program) := emitSequence rest next program
      emitPattern item middle program

def emitChoice : List Pattern → Emitter
  | [], next, program => (next, program)
  | item :: [], next, program => emitPattern item next program
  | item :: rest, next, program =>
      let (preferred, program) := emitPattern item next program
      let (other, program) := emitChoice rest next program
      add (.split preferred other) program

end

end Program

structure Machine where
  program : Program
  start : Nat

abbrev Slots := List (Nat × Nat)

structure Thread where
  place : Nat
  slots : Slots

/-- The threads at one position of the text, in reverse order of preference. -/
structure Front where
  visited : Array Bool
  threads : List Thread

namespace Machine

def ofPattern (pattern : Pattern) : Machine :=
  let (start, program) := Program.emitPattern pattern 0 #[.accept]
  ⟨program, start⟩

def emptyFront (m : Machine) : Front := ⟨Array.replicate m.program.size false, []⟩

def setSlot (slots : Slots) (slot position : Nat) : Slots :=
  (slot, position) :: slots.filter (·.1 != slot)

def follow (m : Machine) (before after : Option Char) (position : Nat) :
    Nat → List Thread → Front → Front
  | 0, _, front => front
  | _, [], front => front
  | fuel + 1, thread :: stack, front =>
      if front.visited.getD thread.place true then follow m before after position fuel stack front
      else
        let front := { front with visited := front.visited.setIfInBounds thread.place true }
        match m.program[thread.place]? with
        | some (.assertion a next) =>
            let stack := if a.holds before after then ⟨next, thread.slots⟩ :: stack else stack
            follow m before after position fuel stack front
        | some (.save slot next) =>
            follow m before after position fuel
              (⟨next, setSlot thread.slots slot position⟩ :: stack) front
        | some (.split preferred other) =>
            follow m before after position fuel
              (⟨preferred, thread.slots⟩ :: ⟨other, thread.slots⟩ :: stack) front
        | _ =>
            follow m before after position fuel stack
              { front with threads := thread :: front.threads }

def enter (m : Machine) (before after : Option Char) (position : Nat) (thread : Thread)
    (front : Front) : Front :=
  follow m before after position (2 * m.program.size + 2) [thread] front

/--
Moves the threads over `c` in order of preference.  A thread that accepts ends
the match here, and those behind it are given up.
-/
def advance (m : Machine) (c : Char) (after : Option Char) (position : Nat) :
    List Thread → Front → Option Slots → Front × Option Slots
  | [], front, found => (front, found)
  | thread :: rest, front, found =>
      match m.program[thread.place]? with
      | some .accept => (front, some (setSlot thread.slots 1 position))
      | some instruction =>
          match instruction.step? c with
          | some next =>
              advance m c after position rest
                (m.enter (some c) after (position + 1) ⟨next, thread.slots⟩ front) found
          | none => advance m c after position rest front found
      | none => advance m c after position rest front found

def acceptAtEnd (m : Machine) (position : Nat) (threads : List Thread) : Option Slots :=
  (threads.find? fun thread =>
    match m.program[thread.place]? with
    | some .accept => true
    | _ => false).map fun thread => setSlot thread.slots 1 position

def begin (m : Machine) (before after : Option Char) (position : Nat) (front : Front)
    (found : Option Slots) : Front :=
  if found.isNone then m.enter before after position ⟨m.start, [(0, position)]⟩ front else front

def run (m : Machine) (before : Option Char) (position : Nat) (front : Front)
    (found : Option Slots) : List Char → Option Slots
  | [] =>
      let front := m.begin before none position front found
      (m.acceptAtEnd position front.threads.reverse).or found
  | c :: rest =>
      let front := m.begin before (some c) position front found
      let (next, found) :=
        m.advance c rest.head? position front.threads.reverse m.emptyFront found
      if found.isSome && next.threads.isEmpty then found
      else run m (some c) (position + 1) next found rest

/--
The slots of the first match at or after `position`, where `before` and `rest` of the
text meet.
-/
def search (m : Machine) (before : Option Char) (position : Nat) (rest : List Char) :
    Option Slots :=
  m.run before position m.emptyFront none rest

def isMatch (m : Machine) (t : Text) : Bool := (m.search none 0 t).isSome

end Machine

end BraceTemplate
