import BraceTemplate.Proofs.Json.Token
import BraceTemplate.Toml.Writer

/-!
# Strings and keys that were written

A string in quotes is read back with its escapes, and a path of keys is read up to
what follows it.
-/

namespace BraceTemplate.Toml.Reader

/-! ## Single steps -/

def EndsBefore (isKind : Char → Bool) (rest : Text) : Prop := ∀ c ∈ rest.head?, isKind c = false

theorem endsBefore_cons {isKind : Char → Bool} {c : Char} (h : isKind c = false) (rest : Text) :
    EndsBefore isKind (c :: rest) := by
  intro d hd
  obtain rfl := Option.some.inj hd
  exact h

theorem takeWhile_append_of_endsBefore {isKind : Char → Bool} {t rest : Text}
    (ht : ∀ c ∈ t, isKind c = true) (hrest : EndsBefore isKind rest) :
    (t ++ rest).takeWhile isKind = t := by
  rw [List.takeWhile_append_of_pos ht]
  cases rest with
  | nil => simp
  | cons c rest => rw [List.takeWhile_cons_of_neg (by simp [hrest c rfl]), List.append_nil]

@[simp] theorem run_skipSpaces (t : Text) : skipSpaces.run t = some ((), t.dropWhile isSpace) := rfl

@[simp] theorem run_current? (t : Text) : current?.run t = some (t.head?, t) := rfl

@[simp] theorem run_bump (t : Text) : bump.run t = some ((), t.drop 1) := rfl

theorem run_expect (c : Char) (rest : Text) : (expect c).run (c :: rest) = some ((), rest) := by
  simp [expect]

/-! ## Strings -/

theorem run_readEscape_of_escaped {c : Char} (h : c = '\x22' ∨ c = '\\') (rest : Text) :
    readEscape.run (c :: rest) = some (c, rest) := by
  rcases h with rfl | rfl <;> simp [readEscape]

theorem run_readCode {digits : Text} (h : ∀ d ∈ digits, (Text.hexDigit? d).isSome = true)
    (rest : Text) :
    (readCode digits.length).run (digits ++ rest) =
      (Text.charOfCode? (Text.hexValue digits)).map (·, rest) := by
  have hall : digits.all (Text.hexDigit? · |>.isSome) = true := List.all_eq_true.mpr h
  unfold readCode
  simp only [StateT.run_bind, StateT.run_get, Option.bind_eq_bind, Option.bind_some,
    Option.pure_def, List.take_left, List.drop_left, hall, and_self, if_true]
  cases Text.charOfCode? (Text.hexValue digits) <;> rfl

theorem run_readEscape_code {c : Char} (h : c.toNat < 256) (rest : Text) :
    readEscape.run ('u' :: '0' :: '0' :: Nat.digitChar (c.toNat / 16) ::
      Nat.digitChar (c.toNat % 16) :: rest) = some (c, rest) := by
  have hzero : Text.hexDigit? '0' = some 0 := rfl
  have hhigh := Json.hexDigit?_digitChar (c.toNat / 16) (by omega)
  have hlow := Json.hexDigit?_digitChar (c.toNat % 16) (by omega)
  have hvalue : c.toNat / 16 * 16 + c.toNat % 16 = c.toNat := by omega
  have hcode : c.toNat < 0xD800 := by omega
  let digits := ['0', '0', Nat.digitChar (c.toNat / 16), Nat.digitChar (c.toNat % 16)]
  have hdigits : ∀ d ∈ digits, (Text.hexDigit? d).isSome = true := by
    simp [digits, hzero, hhigh, hlow]
  have hhex : Text.hexValue digits = c.toNat := by
    simp [digits, Text.hexValue, hzero, hhigh, hlow, hvalue]
  have hchar : Text.charOfCode? c.toNat = some c := by
    simp [Text.charOfCode?, hcode, Char.ofNat_toNat]
  have hread := run_readCode hdigits rest
  rw [hhex, hchar] at hread
  exact hread
theorem run_readBasic_escape (fuel : Nat) (seen : Text) (c : Char) (rest : Text) :
    (readBasic (fuel + 1) seen).run (escape c ++ rest) = (readBasic fuel (c :: seen)).run rest := by
  have hbackslash : ∀ after : Text, (readBasic (fuel + 1) seen).run ('\\' :: after) =
      (readEscape >>= fun escaped => readBasic fuel (escaped :: seen)).run after := fun _ => rfl
  unfold escape
  split_ifs with hescaped hcontrol
  · rw [List.cons_append, List.cons_append, List.nil_append, hbackslash, StateT.run_bind,
      run_readEscape_of_escaped (by simpa using hescaped)]
    rfl
  · have hcode : c.toNat < 256 := by
      simp only [Bool.or_eq_true, decide_eq_true_eq, beq_iff_eq] at hcontrol
      omega
    rw [List.cons_append, hbackslash, StateT.run_bind]
    simp only [List.cons_append, List.nil_append]
    rw [run_readEscape_code hcode]
    rfl
  · simp only [Bool.or_eq_true, not_or, Bool.not_eq_true, decide_eq_false_iff_not,
      beq_eq_false_iff_ne, ne_eq] at hescaped hcontrol
    have hplain : isControl c = false := by simp [isControl, hcontrol]
    simp [readBasic, hescaped, hplain]

theorem run_readBasic (s : Text) (rest : Text) {fuel : Nat} (hfuel : s.length < fuel)
    (seen : Text) :
    (readBasic fuel seen).run (s.flatMap escape ++ '\x22' :: rest) =
      some (String.ofList (seen.reverse ++ s), rest) := by
  induction s generalizing fuel seen with
  | nil =>
      cases fuel with
      | zero => cases hfuel
      | succ fuel => simp [readBasic]
  | cons c s ih =>
      cases fuel with
      | zero => cases hfuel
      | succ fuel =>
          rw [List.flatMap_cons, List.append_assoc, run_readBasic_escape,
            ih (Nat.lt_of_succ_lt_succ hfuel)]
          simp

theorem length_le_flatMap_escape (s : Text) : s.length ≤ (s.flatMap escape).length := by
  induction s with
  | nil => exact Nat.le_refl _
  | cons c s ih =>
      have hone : 1 ≤ (escape c).length := by
        unfold escape
        split_ifs <;> simp
      simp only [List.flatMap_cons, List.length_append, List.length_cons]
      omega

theorem toList_writeString (s : String) :
    (writeString s).toList = '\x22' :: (s.toList.flatMap escape ++ ['\x22']) := by
  simp [writeString]

theorem run_readBasic_writeString (s : String) (rest : Text) :
    (readBasic ((writeString s).toList ++ rest).length []).run
      (s.toList.flatMap escape ++ '\x22' :: rest) = some (s, rest) := by
  have hlength := length_le_flatMap_escape s.toList
  rw [run_readBasic]
  · simp
  · rw [toList_writeString]
    simp only [List.length_append, List.length_cons, List.cons_append]
    omega

/-! ## Keys -/

theorem run_readSimpleKey_quoted (t : Text) :
    readSimpleKey.run ('\x22' :: t) = (readBasic (t.length + 1) []).run t := rfl

theorem run_readSimpleKey_bare {c : Char} (hquote : c ≠ '\x22') (hapostrophe : c ≠ '\x27')
    (t : Text) :
    readSimpleKey.run (c :: t) =
      (let key := (c :: t).takeWhile isKeyCharacter
      if key.isEmpty then none
      else some (String.ofList key, (c :: t).drop key.length)) := by
  unfold readSimpleKey
  simp only [StateT.run_bind, StateT.run_get, Option.bind_eq_bind, Option.bind_some,
    Option.pure_def]
  split
  · simp_all
  · simp_all
  · split <;> rfl

theorem exists_bare_eq {key : String}
    (h : (!key.isEmpty && key.toList.all isKeyCharacter) = true) :
    ∃ c letters, key.toList = c :: letters ∧ ∀ d ∈ c :: letters, isKeyCharacter d = true := by
  simp only [Bool.and_eq_true, Bool.not_eq_true', List.all_eq_true] at h
  obtain ⟨hne, hall⟩ := h
  obtain ⟨c, letters, hletters⟩ := List.exists_cons_of_ne_nil
    (mt String.toList_eq_nil_iff.mp (String.isEmpty_eq_false_iff.mp hne))
  exact ⟨c, letters, hletters, hletters ▸ hall⟩

theorem run_readSimpleKey (key : String) {rest : Text} (hrest : EndsBefore isKeyCharacter rest) :
    readSimpleKey.run ((writeKey key).toList ++ rest) = some (key, rest) := by
  unfold writeKey
  split
  · rename_i hbare
    obtain ⟨c, letters, hletters, hall⟩ := exists_bare_eq hbare
    have hc : isKeyCharacter c = true := hall c List.mem_cons_self
    have hquote : c ≠ '\x22' := by rintro rfl; cases hc
    have hapostrophe : c ≠ '\x27' := by rintro rfl; cases hc
    have hkey := takeWhile_append_of_endsBefore hall hrest
    have hdrop : (c :: (letters ++ rest)).drop (c :: letters).length = rest := List.drop_left
    rw [List.cons_append] at hkey
    rw [hletters, List.cons_append, run_readSimpleKey_bare hquote hapostrophe, hkey]
    dsimp only
    rw [hdrop, ← hletters, String.ofList_toList, hletters]
    rfl
  · have hbound : ((writeString key).toList ++ rest).length =
        (key.toList.flatMap escape ++ '\x22' :: rest).length + 1 := by
      simp [toList_writeString]
    have hread := run_readBasic_writeString key rest
    rw [hbound] at hread
    rw [toList_writeString, List.cons_append, List.append_assoc, run_readSimpleKey_quoted]
    exact hread

def isStart (c : Char) : Bool := c == '\x22' || c == '[' || c == '\x7b' || isScalarCharacter c

theorem dropWhile_isSpace_of_isStart {c : Char} (h : isStart c = true) (t : Text) :
    (c :: t).dropWhile isSpace = c :: t := by
  refine List.dropWhile_cons_of_neg ?_
  have hspace : c ≠ ' ' := by rintro rfl; cases h
  have htab : c ≠ '\t' := by rintro rfl; cases h
  simp [isSpace, hspace, htab]

def isKeyStart (c : Char) : Bool := c == '\x22' || isKeyCharacter c

theorem isStart_of_isKeyStart {c : Char} (h : isKeyStart c = true) : isStart c = true := by
  simp only [isKeyStart, isKeyCharacter, Bool.or_eq_true] at h
  simp only [isStart, isScalarCharacter, Bool.or_eq_true]
  tauto

theorem exists_writeKey_eq (key : String) :
    ∃ c t, (writeKey key).toList = c :: t ∧ isKeyStart c = true := by
  unfold writeKey
  split
  · rename_i hbare
    obtain ⟨c, letters, hletters, hall⟩ := exists_bare_eq hbare
    refine ⟨c, letters, hletters, ?_⟩
    simp [isKeyStart, hall c List.mem_cons_self]
  · exact ⟨_, _, toList_writeString key, rfl⟩

theorem dropWhile_isSpace_writeKey (key : String) (t : Text) :
    ((writeKey key).toList ++ t).dropWhile isSpace = (writeKey key).toList ++ t := by
  obtain ⟨c, letters, hletters, hc⟩ := exists_writeKey_eq key
  rw [hletters, List.cons_append, dropWhile_isSpace_of_isStart (isStart_of_isKeyStart hc)]

/-! ## Paths -/

theorem toList_writePath (path : List String) :
    (writePath path).toList = ['.'].intercalate (path.map fun key => (writeKey key).toList) := by
  simp [writePath, Function.comp_def]

theorem toList_writePath_singleton (key : String) :
    (writePath [key]).toList = (writeKey key).toList := by
  simp [toList_writePath]

theorem toList_writePath_cons (first : String) (keys : List String) (key : String) :
    (writePath (first :: (keys ++ [key]))).toList =
      (writeKey first).toList ++ '.' :: (writePath (keys ++ [key])).toList := by
  rw [toList_writePath, toList_writePath]
  cases keys <;> simp [List.intercalate_cons_cons]

theorem exists_writePath_eq (keys : List String) (key : String) :
    ∃ c t, (writePath (keys ++ [key])).toList = c :: t ∧ isKeyStart c = true := by
  cases keys with
  | nil =>
      rw [List.nil_append, toList_writePath_singleton]
      exact exists_writeKey_eq key
  | cons first keys =>
      obtain ⟨c, t, hfirst, hc⟩ := exists_writeKey_eq first
      exact ⟨c, _, by rw [List.cons_append, toList_writePath_cons, hfirst, List.cons_append], hc⟩

theorem length_lt_writePath (keys : List String) (key : String) :
    keys.length < (writePath (keys ++ [key])).toList.length := by
  induction keys with
  | nil =>
      obtain ⟨c, letters, hletters, -⟩ := exists_writeKey_eq key
      rw [List.nil_append, toList_writePath_singleton, hletters]
      exact Nat.succ_pos _
  | cons first keys ih =>
      rw [List.cons_append, toList_writePath_cons, List.length_append, List.length_cons,
        List.length_cons]
      omega

theorem run_readKeys {keys : List String} {key : String} {rest : Text} (done : List String)
    (hrest : EndsBefore isKeyCharacter rest) (hdot : (rest.dropWhile isSpace).head? ≠ some '.')
    {fuel : Nat} (hfuel : keys.length < fuel) :
    (readKeys fuel done).run ((writePath (keys ++ [key])).toList ++ rest) =
      some ((keys.reverse ++ done, key), rest.dropWhile isSpace) := by
  induction keys generalizing done fuel with
  | nil =>
      cases fuel with
      | zero => cases hfuel
      | succ fuel =>
          rw [List.nil_append, toList_writePath_singleton]
          simp [readKeys, dropWhile_isSpace_writeKey, run_readSimpleKey key hrest, hdot]
  | cons first keys ih =>
      cases fuel with
      | zero => cases hfuel
      | succ fuel =>
          let more := (writePath (keys ++ [key])).toList ++ rest
          have hends : EndsBefore isKeyCharacter ('.' :: more) := endsBefore_cons rfl more
          have hdotted : ('.' :: more).dropWhile isSpace = '.' :: more :=
            dropWhile_isSpace_of_isStart rfl _
          have hmore := ih (first :: done) (Nat.lt_of_succ_lt_succ hfuel)
          rw [List.cons_append, toList_writePath_cons, List.append_assoc, List.cons_append]
          simp [readKeys, dropWhile_isSpace_writeKey, run_readSimpleKey first hends, hdotted, more,
            hmore]

theorem run_readPath (keys : List String) (key : String) {rest : Text}
    (hrest : EndsBefore isKeyCharacter rest) (hdot : (rest.dropWhile isSpace).head? ≠ some '.') :
    readPath.run ((writePath (keys ++ [key])).toList ++ rest) =
      some ((keys, key), rest.dropWhile isSpace) := by
  have hstart : ∀ t : Text, readPath.run t =
      ((readKeys (t.length + 1) []).run t).bind fun read =>
        some ((read.1.1.reverse, read.1.2), read.2) := fun _ => rfl
  have hlength := length_lt_writePath keys key
  rw [hstart, run_readKeys [] hrest hdot (by rw [List.length_append]; omega)]
  simp

theorem run_readPath_assignment (key : String) (v : Text) :
    readPath.run ((writeKey key).toList ++ ' ' :: '=' :: ' ' :: v) =
      some (([], key), '=' :: ' ' :: v) := by
  have hspace : (' ' :: '=' :: ' ' :: v).dropWhile isSpace = '=' :: ' ' :: v := rfl
  have hends : EndsBefore isKeyCharacter (' ' :: '=' :: ' ' :: v) := endsBefore_cons rfl _
  have hread := run_readPath [] key hends (by simp [hspace])
  rwa [List.nil_append, toList_writePath_singleton, hspace] at hread

theorem run_readPath_bracket (keys : List String) (key : String) (rest : Text) :
    readPath.run ((writePath (keys ++ [key])).toList ++ ']' :: rest) =
      some ((keys, key), ']' :: rest) := by
  have hspace : (']' :: rest).dropWhile isSpace = ']' :: rest := rfl
  have hends : EndsBefore isKeyCharacter (']' :: rest) := endsBefore_cons rfl rest
  have hread := run_readPath keys key hends (by simp [hspace])
  rwa [hspace] at hread

end BraceTemplate.Toml.Reader
