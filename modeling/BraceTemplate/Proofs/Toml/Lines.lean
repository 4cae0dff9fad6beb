import BraceTemplate.Proofs.Toml.Place

/-!
# Lines that were written

Every line that was written leads the reader from one document to the next: a
header opens a table at its path, and an assignment goes to the table that is open.
-/

namespace BraceTemplate.Toml.Reader

def unlines (lines : List String) : Text := lines.flatMap fun line => line.toList ++ ['\n']

theorem unlines_append (first second : List String) :
    unlines (first ++ second) = unlines first ++ unlines second :=
  List.flatMap_append

/-- Some lines lead from one document to another, and none starts like a mark of byte order. -/
structure Leads (lines : List String) (d changed : Document) : Prop where
  unmarked : ∀ line ∈ lines, ∃ c u, line.toList = c :: u ∧ c.toNat ≠ 0xFEFF
  run : ∀ fuel rest, (readLines (fuel + lines.length) d).run (unlines lines ++ rest) =
    (readLines fuel changed).run rest

theorem Leads.nil (d : Document) : Leads [] d d := ⟨List.forall_mem_nil _, fun _ _ => rfl⟩

theorem Leads.append {first second : List String} {d middle changed : Document}
    (hfirst : Leads first d middle) (hsecond : Leads second middle changed) :
    Leads (first ++ second) d changed := by
  refine ⟨List.forall_mem_append.mpr ⟨hfirst.unmarked, hsecond.unmarked⟩, fun fuel rest => ?_⟩
  rw [List.length_append, Nat.add_comm first.length, ← Nat.add_assoc, unlines_append,
    List.append_assoc, hfirst.run, hsecond.run]

theorem Leads.cons {line : String} {lines : List String} {d middle changed : Document}
    (hfirst : Leads [line] d middle) (hrest : Leads lines middle changed) :
    Leads (line :: lines) d changed := hfirst.append hrest

theorem Leads.single {line : String} {d changed : Document} {c : Char} {u : Text}
    (hline : line.toList = c :: u) (hmark : c.toNat ≠ 0xFEFF)
    (hrun : ∀ fuel rest, (readLines (fuel + 1) d).run (line.toList ++ '\n' :: rest) =
      (readLines fuel changed).run rest) : Leads [line] d changed := by
  refine ⟨List.forall_mem_singleton.mpr ⟨c, u, hline, hmark⟩, fun fuel rest => ?_⟩
  rw [unlines, List.flatMap_singleton, List.append_assoc]
  exact hrun fuel rest

/-! ## Single lines -/

def finishLine (fuel : Nat) (d : Document) : Reader Json := do
  skipSpaces
  skipComment
  let t ← get
  if t.isEmpty then pure d.root.toJson
  else match afterLineEnd? t with
    | some rest =>
        set rest
        readLines fuel d
    | none => failure

theorem readLines_succ (fuel : Nat) (d : Document) :
    readLines (fuel + 1) d = (do
      skipAllLines
      match (← get) with
      | [] => pure d.root.toJson
      | c :: rest =>
          if c == '[' then do
            set rest
            readHeader d >>= finishLine fuel
          else readAssignment d >>= finishLine fuel) := rfl

theorem run_finishLine (fuel : Nat) (d : Document) (rest : Text) :
    (finishLine fuel d).run ('\n' :: rest) = (readLines fuel d).run rest := rfl

theorem run_skipAllLines_start {c : Char} (hc : isStart c = true) (u : Text) :
    skipAllLines.run (c :: u) = some ((), c :: u) := by
  have hstarts : Starts [c] := ⟨c, [], rfl, hc⟩
  exact hstarts.run_skipAllLines (t := c :: u) rfl

theorem toNat_ne_of_isStart {c : Char} (h : isStart c = true) : c.toNat ≠ 0xFEFF := by
  intro hmark
  obtain rfl : c = Char.ofNat 0xFEFF := by rw [← hmark, Char.ofNat_toNat]
  cases h

theorem run_skipAllLines_blank (u : Text) :
    skipAllLines.run ('\n' :: '[' :: u) = some ((), '[' :: u) := rfl

theorem run_readLines_header {u rest : Text} {d changed : Document}
    (h : (readHeader d).run u = some (changed, '\n' :: rest)) (fuel : Nat) :
    (readLines (fuel + 1) d).run ('\n' :: '[' :: u) = (readLines fuel changed).run rest := by
  rw [readLines_succ]
  simp [run_skipAllLines_blank, h, run_finishLine]

theorem run_readLines_assignment {c : Char} {u rest : Text} (hc : isKeyStart c = true)
    {d changed : Document} (h : (readAssignment d).run (c :: u) = some (changed, '\n' :: rest))
    (fuel : Nat) :
    (readLines (fuel + 1) d).run (c :: u) = (readLines fuel changed).run rest := by
  have hheader : c ≠ '[' := by rintro rfl; cases hc
  rw [readLines_succ]
  simp [run_skipAllLines_start (isStart_of_isKeyStart hc), hheader, h, run_finishLine]

theorem run_readAssignment {member : String × Json} {v : Text} (hv : ReadsIn 0 member.2 v)
    {d : Document} {root : Table}
    (hroot : d.root.update? false (Table.assign? [] member.1 member.2) d.header = some root)
    (rest : Text) :
    (readAssignment d).run
      ((writeKey member.1).toList ++ ' ' :: '=' :: ' ' :: (v ++ '\n' :: rest)) =
      some (⟨d.header, root⟩, '\n' :: rest) := by
  have hspace : (' ' :: (v ++ '\n' :: rest)).dropWhile isSpace = v ++ '\n' :: rest :=
    (List.dropWhile_cons_of_pos rfl).trans (hv.starts.dropWhile_isSpace ('\n' :: rest))
  have hread := hv.read (2 * (v ++ '\n' :: rest).length + 4) ('\n' :: rest)
    (by rw [List.length_append]; omega) (endsBefore_cons rfl rest)
  rw [readAssignment]
  simp [run_readPath_assignment, run_expect, hspace, -List.length_append, hread, hroot]

theorem leads_of_assignment {member : String × Json} {line : String}
    (hline : AssignsIn 0 member line.toList) {d : Document} {root : Table}
    (hroot : d.root.update? false (Table.assign? [] member.1 member.2) d.header = some root) :
    Leads [line] d ⟨d.header, root⟩ := by
  obtain ⟨first, letters, hfirst, hstart⟩ := hline.starts
  refine .single hfirst (toNat_ne_of_isStart hstart) fun fuel rest => ?_
  obtain ⟨v, hv, hline⟩ := hline
  obtain ⟨c, u, hkey, hc⟩ := exists_writeKey_eq member.1
  have hread := run_readAssignment hv hroot rest
  rw [hkey, List.cons_append] at hread
  rw [hline, hkey, List.append_assoc, List.cons_append]
  exact run_readLines_assignment hc hread fuel

section Headers

variable {keys : List String} {key : String} {d : Document} {root : Table}

theorem leads_of_header (hroot : d.root.openTable? keys key = some root) :
    Leads [tableHeader (keys ++ [key])] d ⟨keys ++ [key], root⟩ := by
  have hline : (tableHeader (keys ++ [key])).toList =
      '\n' :: '[' :: ((writePath (keys ++ [key])).toList ++ [']']) := by simp [tableHeader]
  refine .single hline (by decide) fun fuel rest => ?_
  have hpath := run_readPath_bracket keys key ('\n' :: rest)
  obtain ⟨c, t, htext, hc⟩ := exists_writePath_eq keys key
  have hbracket : c ≠ '[' := by rintro rfl; cases hc
  have hread : (readHeader d).run ((writePath (keys ++ [key])).toList ++ ']' :: '\n' :: rest) =
      some (⟨keys ++ [key], root⟩, '\n' :: rest) := by
    rw [htext, List.cons_append] at hpath ⊢
    rw [readHeader]
    simp [hbracket, hpath, run_expect, hroot]
  rw [hline, List.cons_append, List.cons_append, List.append_assoc]
  exact run_readLines_header hread fuel

theorem leads_of_elementHeader (hroot : d.root.openElement? keys key = some root) :
    Leads [elementHeader (keys ++ [key])] d ⟨keys ++ [key], root⟩ := by
  have hline : (elementHeader (keys ++ [key])).toList =
      '\n' :: '[' :: '[' :: ((writePath (keys ++ [key])).toList ++ [']', ']']) := by
    simp [elementHeader]
  refine .single hline (by decide) fun fuel rest => ?_
  have hpath := run_readPath_bracket keys key (']' :: '\n' :: rest)
  have hread : (readHeader d).run
      ('[' :: ((writePath (keys ++ [key])).toList ++ ']' :: ']' :: '\n' :: rest)) =
        some (⟨keys ++ [key], root⟩, '\n' :: rest) := by
    rw [readHeader]
    simp [hpath, run_expect, hroot]
  rw [hline, List.cons_append, List.cons_append, List.cons_append, List.append_assoc]
  exact run_readLines_header hread fuel

end Headers

end BraceTemplate.Toml.Reader
