import BraceTemplate.Pattern.Machine
import BraceTemplate.Number.Reader

/-!
# Replacing matches

All matches of a pattern, from the left and without overlap, are replaced by a
text that can refer to groups: `$name`, `$` and a number, either of them in
braces, and `$$` for the sign itself.  An empty match right behind the match
before it does not count.
-/

namespace BraceTemplate

inductive ReplacementPiece where
  | literal (t : Text)
  | number (index : Nat)
  | name (t : Text)

namespace ReplacementPiece

def isNameCharacter (c : Char) : Bool := c.isAlphanum || c == '_'

def ofReference (t : Text) : ReplacementPiece :=
  match readIndex? t with
  | some index => .number index
  | none => .name t

def read? (t : Text) : Option (ReplacementPiece × Text) :=
  match t with
  | '$' :: rest => some (.literal ['$'], rest)
  | '{' :: rest =>
      let name := rest.takeWhile (· != '}')
      match rest.drop name.length with
      | [] => none
      | _ :: after => some (ofReference name, after)
  | t =>
      let name := t.takeWhile isNameCharacter
      if name.isEmpty then none else some (ofReference name, t.drop name.length)

def ofText : Nat → Text → List ReplacementPiece
  | 0, t => [.literal t]
  | fuel + 1, t =>
      let plain := t.takeWhile (· != '$')
      match t.drop plain.length with
      | [] => [.literal plain]
      | _ :: rest =>
          match read? rest with
          | some (piece, after) => .literal plain :: piece :: ofText fuel after
          | none => .literal plain :: .literal ['$'] :: ofText fuel rest

end ReplacementPiece

namespace NamedPattern

def machine (p : NamedPattern) : Machine := Machine.ofPattern p.pattern

def isMatch (p : NamedPattern) (t : Text) : Bool := p.machine.isMatch t

end NamedPattern

namespace Machine

/-- The slots of all matches, in reverse; `lastEnd` is where the match before ended. -/
def allMatches (m : Machine) :
    Nat → Option Char → Nat → Option Nat → List Slots → List Char → List Slots
  | 0, _, _, _, found, _ => found
  | fuel + 1, before, position, lastEnd, found, rest =>
      match m.search before position rest with
      | none => found
      | some slots =>
          let start := (slots.lookup 0).getD position
          let stop := (slots.lookup 1).getD position
          if start == stop && lastEnd == some stop then
            match rest with
            | [] => found
            | c :: rest => allMatches m fuel (some c) (position + 1) lastEnd found rest
          else
            let passed := rest.take (stop - position)
            allMatches m fuel (passed.getLast?.or before) stop (some stop) (slots :: found)
              (rest.drop (stop - position))

end Machine

namespace NamedPattern

def groupText (characters : Array Char) (slots : Slots) (index : Nat) : Text :=
  match slots.lookup (2 * index), slots.lookup (2 * index + 1) with
  | some start, some stop => (characters.extract start stop).toList
  | _, _ => []

def expandPiece (p : NamedPattern) (characters : Array Char) (slots : Slots) :
    ReplacementPiece → Text
  | .literal t => t
  | .number index => groupText characters slots index
  | .name name => (p.names.lookup name).elim [] (groupText characters slots)

def replaceAll (p : NamedPattern) (replacement t : Text) : Text :=
  let pieces := ReplacementPiece.ofText replacement.length replacement
  let characters := t.toArray
  let found := (p.machine.allMatches (2 * t.length + 2) none 0 none [] t).reverse
  let (passed, output) := found.foldl
    (fun (state : Nat × List Text) slots =>
      let start := (slots.lookup 0).getD state.1
      let stop := (slots.lookup 1).getD state.1
      (stop, pieces.flatMap (p.expandPiece characters slots) ::
        (characters.extract state.1 start).toList :: state.2))
    (0, [])
  ((characters.extract passed characters.size).toList :: output).reverse.flatten

end NamedPattern

end BraceTemplate
