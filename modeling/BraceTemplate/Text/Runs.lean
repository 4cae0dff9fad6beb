import BraceTemplate.Text.Hexadecimal

/-!
# Tables over the code points

A run table gives every code point a label: it lists where the runs of one
label start.  A table is written as words, each the length of a run in base
sixteen followed by the letters of its label.
-/

namespace BraceTemplate.Text

/--
Position of the last entry of `starts` that is at most `code`, between `low` and
`low + width`.
-/
def lastStart (starts : Array Nat) (code : Nat) : (fuel low width : Nat) → Nat
  | 0, low, _ => low
  | fuel + 1, low, width =>
      if width ≤ 1 then low
      else
        let middle := low + width / 2
        if starts.getD middle 0 ≤ code then lastStart starts code fuel middle (width - width / 2)
        else lastStart starts code fuel low (width / 2)

def wordsOfLines (lines : List String) : List Text := lines.flatMap fun line => words line.toList

structure Runs (α : Type) where
  starts : Array Nat
  labels : Array α

namespace Runs

def ofLines {α : Type} (label : Text → α) (lines : List String) : Runs α :=
  let table := (wordsOfLines lines).foldl
    (fun (table : Nat × Array Nat × Array α) word =>
      let digits := word.takeWhile fun c => c.isDigit || c.isLower
      (table.1 + hexValue digits, table.2.1.push table.1,
        table.2.2.push (label (word.drop digits.length))))
    (0, #[], #[])
  ⟨table.2.1, table.2.2⟩

def label? {α : Type} (table : Runs α) (code : Nat) : Option α :=
  table.labels[lastStart table.starts code 32 0 table.starts.size]?

end Runs

end BraceTemplate.Text
