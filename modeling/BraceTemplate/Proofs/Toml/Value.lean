import BraceTemplate.Proofs.Toml.Keys
import BraceTemplate.Proofs.Toml.Library
import BraceTemplate.Proofs.Toml.Scalar
import BraceTemplate.Proofs.Toml.Writer

/-!
# Values that were written

A value on the right of an assignment is read back from its text, with the members
of its inline tables in order, unless it is nested too deep.
-/

namespace BraceTemplate.Toml

open Dictionary (names)

namespace Table

theorem assign?_of_not_mem {entries : Dictionary Node} {key : String} (h : key ∉ names entries)
    (document : Json) :
    assign? [] key document ⟨false, false, entries⟩ =
      some ⟨false, false, entries ++ [(key, .value document)]⟩ := by
  simp [assign?, update?, Dictionary.contains, Dictionary.find?_of_not_mem h,
    Dictionary.insert_of_not_mem h]

def values (members : Dictionary Json) : Dictionary Node :=
  members.map fun member => (member.1, .value member.2)

theorem names_values (members : Dictionary Json) : names (values members) = names members := by
  rw [values, Dictionary.names_map]

theorem values_append (first second : Dictionary Json) :
    values (first ++ second) = values first ++ values second := by
  rw [values, List.map_append]
  rfl

theorem toJson_values (members : Dictionary Json) :
    Table.toJson ⟨false, false, values members⟩ = Json.ofMembers members := by
  rw [Table.toJson, toNode, Node.toJson, values, List.map_map]
  simp [Function.comp_def, Node.toJson]

end Table

namespace Reader

/-! ## Words and strings -/

def EndsValue (rest : Text) : Prop := EndsBefore (fun c => isScalarCharacter c || c == '\x22') rest

structure IsWord (t : Text) : Prop where
  ne_nil : t ≠ []
  all : ∀ c ∈ t, isScalarCharacter c = true

theorem run_readScalar {w rest : Text} (hw : ∀ c ∈ w, isScalarCharacter c = true)
    (hrest : EndsBefore isScalarCharacter rest) :
    readScalar.run (w ++ rest) = (readScalar? w).map (·, rest) := by
  have hstart : ∀ t : Text, readScalar.run t =
      (readScalar? (t.takeWhile isScalarCharacter)).map
        (·, t.drop (t.takeWhile isScalarCharacter).length) := by
    intro t
    change (readScalar? (t.takeWhile isScalarCharacter)).bind _ = _
    cases readScalar? (t.takeWhile isScalarCharacter) <;> rfl
  rw [hstart, takeWhile_append_of_endsBefore hw hrest, List.drop_left]

theorem run_readValue_scalar {c : Char} (hc : isScalarCharacter c = true) (fuel depth : Nat)
    (t : Text) : (readValue (fuel + 1) depth).run (c :: t) = readScalar.run (c :: t) := by
  have hquote : c ≠ '\x22' := by rintro rfl; cases hc
  have hapostrophe : c ≠ '\x27' := by rintro rfl; cases hc
  have hbracket : c ≠ '[' := by rintro rfl; cases hc
  have hbrace : c ≠ '\x7b' := by rintro rfl; cases hc
  rw [readValue]
  simp only [StateT.run_bind, StateT.run_get, Option.bind_eq_bind, Option.bind_some,
    Option.pure_def]
  split <;> first | rfl | simp_all

theorem run_readValue_word {w rest : Text} (hw : IsWord w) (hrest : EndsValue rest)
    (fuel depth : Nat) :
    (readValue (fuel + 1) depth).run (w ++ rest) = (readScalar? w).map (·, rest) := by
  have hends : EndsBefore isScalarCharacter rest :=
    fun c hc => (Bool.or_eq_false_iff.mp (hrest c hc)).1
  obtain ⟨c, letters, rfl⟩ := List.exists_cons_of_ne_nil hw.ne_nil
  rw [← run_readScalar hw.all hends, List.cons_append,
    run_readValue_scalar (hw.all c List.mem_cons_self)]

theorem run_readValue_quote {t : Text} (h : ∀ u, t ≠ '\x22' :: '\x22' :: u) (fuel depth : Nat) :
    (readValue (fuel + 1) depth).run ('\x22' :: t) =
      ((readBasic (t.length + 1) []).run t).map fun read => (.string read.1, read.2) := by
  rw [readValue]
  simp only [StateT.run_bind, StateT.run_get, Option.bind_eq_bind, Option.bind_some,
    Option.pure_def]
  change ((readBasic ('\x22' :: t).length []).run t).bind _ = _
  cases (readBasic ('\x22' :: t).length []).run t <;> rfl

theorem escaped_ne_quotes (s : Text) {rest : Text} (hrest : EndsValue rest) (u : Text) :
    s.flatMap escape ++ '\x22' :: rest ≠ '\x22' :: '\x22' :: u := by
  cases s with
  | nil =>
      intro hsame
      obtain rfl := (List.cons.inj hsame).2
      cases hrest '\x22' rfl
  | cons c s =>
      rw [List.flatMap_cons, escape]
      split_ifs with hescaped
      · simp
      · simp
      · intro hsame
        simp_all

theorem run_readValue_string (s : String) {rest : Text} (hrest : EndsValue rest)
    (fuel depth : Nat) :
    (readValue (fuel + 1) depth).run ((writeString s).toList ++ rest) = some (.string s, rest) := by
  have hread := run_readBasic_writeString s rest
  rw [toList_writeString] at hread ⊢
  simp only [List.cons_append, List.append_assoc, List.nil_append, List.length_cons] at hread ⊢
  rw [run_readValue_quote (escaped_ne_quotes s.toList hrest), hread]
  rfl

theorem run_readValue_bracket (fuel : Nat) {depth : Nat} (h : depth < maxNesting) (t : Text) :
    (readValue (fuel + 1) depth).run ('[' :: t) = (readItems fuel (depth + 1) []).run t := by
  rw [readValue]
  simp only [StateT.run_bind, StateT.run_get, Option.bind_eq_bind, Option.bind_some,
    Option.pure_def, if_neg (Nat.not_le.mpr h)]
  rfl

theorem run_readValue_brace (fuel : Nat) {depth : Nat} (h : depth < maxNesting) (t : Text) :
    (readValue (fuel + 1) depth).run ('\x7b' :: t) =
      (readMembers fuel (depth + 1) .root).run t := by
  rw [readValue]
  simp only [StateT.run_bind, StateT.run_get, Option.bind_eq_bind, Option.bind_some,
    Option.pure_def, if_neg (Nat.not_le.mpr h)]
  rfl

/-! ## Items and members -/

def EndsBlanks (t : Text) : Prop := EndsBefore (fun c => c == '#' || c == '\n' || c == '\r') t

theorem run_skipComment {t : Text} (h : EndsBlanks t) : skipComment.run t = some ((), t) := by
  have hcomment : t.head? ≠ some '#' := fun hhead => by cases h '#' hhead
  simp [skipComment, hcomment]

theorem afterLineEnd?_eq_none {t : Text} (h : EndsBlanks t) : afterLineEnd? t = none := by
  unfold afterLineEnd?
  split
  · cases h '\n' rfl
  · cases h '\r' rfl
  · rfl

theorem run_skipAllLines {t : Text} (h : EndsBlanks (t.dropWhile isSpace)) :
    skipAllLines.run t = some ((), t.dropWhile isSpace) := by
  have hstart : skipAllLines.run t = (skipLines (t.length + 1)).run t := rfl
  rw [hstart, skipLines]
  simp [run_skipComment h, afterLineEnd?_eq_none h]

def Starts (t : Text) : Prop := ∃ c u, t = c :: u ∧ isStart c = true

theorem Starts.head?_ne {t : Text} (h : Starts t) {mark : Char} (hmark : isStart mark = false)
    (rest : Text) : (t ++ rest).head? ≠ some mark := by
  obtain ⟨c, u, rfl, hc⟩ := h
  intro hhead
  obtain rfl := Option.some.inj hhead
  rw [hc] at hmark
  cases hmark

theorem Starts.dropWhile_isSpace {t : Text} (h : Starts t) (rest : Text) :
    (t ++ rest).dropWhile isSpace = t ++ rest := by
  obtain ⟨c, u, rfl, hc⟩ := h
  rw [List.cons_append, dropWhile_isSpace_of_isStart hc]

theorem Starts.run_skipAllLines {text rest t : Text} (h : Starts text)
    (ht : t.dropWhile isSpace = (text ++ rest).dropWhile isSpace) :
    skipAllLines.run t = some ((), text ++ rest) := by
  rw [h.dropWhile_isSpace] at ht
  rw [← ht]
  refine Reader.run_skipAllLines (ht ▸ fun d hd => ?_)
  have hcomment : d ≠ '#' := by rintro rfl; exact h.head?_ne rfl rest hd
  have hline : d ≠ '\n' := by rintro rfl; exact h.head?_ne rfl rest hd
  have hreturn : d ≠ '\r' := by rintro rfl; exact h.head?_ne rfl rest hd
  simp [hcomment, hline, hreturn]

def IsMark (c : Char) : Prop := c = ',' ∨ c = ']' ∨ c = '\x7d'

theorem IsMark.endsValue {mark : Char} (h : IsMark mark) (more : Text) :
    EndsValue (mark :: more) := by
  rcases h with rfl | rfl | rfl <;> exact endsBefore_cons rfl more

theorem IsMark.run_skipAllLines {mark : Char} (h : IsMark mark) (more : Text) :
    skipAllLines.run (mark :: more) = some ((), mark :: more) := by
  have hspace : (mark :: more).dropWhile isSpace = mark :: more := by
    rcases h with rfl | rfl | rfl <;> rfl
  have hends : EndsBlanks (mark :: more) := by
    rcases h with rfl | rfl | rfl <;> exact endsBefore_cons rfl more
  rw [Reader.run_skipAllLines (hspace.symm ▸ hends), hspace]

/-- A document is read inside so many arrays and inline tables from a text. -/
structure ReadsIn (depth : Nat) (document : Json) (t : Text) : Prop where
  starts : Starts t
  read : ∀ fuel rest, t.length < fuel → EndsValue rest →
    (readValue fuel depth).run (t ++ rest) = some (document, rest)

def body (texts : List Text) (close : Char) (rest : Text) : Text :=
  [',', ' '].intercalate texts ++ close :: rest

theorem body_singleton (t : Text) (close : Char) (rest : Text) :
    body [t] close rest = t ++ close :: rest := by
  simp [body]

theorem body_cons_cons (t next : Text) (texts : List Text) (close : Char) (rest : Text) :
    body (t :: next :: texts) close rest = t ++ ',' :: ' ' :: body (next :: texts) close rest := by
  simp [body, List.intercalate_cons_cons]

theorem run_readItems_item {depth : Nat} {item : Json} {text : Text}
    (hitem : ReadsIn depth item text)
    {t more : Text} {mark : Char} (hmark : mark = ',' ∨ mark = ']')
    (ht : t.dropWhile isSpace = (text ++ mark :: more).dropWhile isSpace) {fuel : Nat}
    (hfuel : text.length < fuel) (done : List Json) :
    (readItems (fuel + 1) depth done).run t =
      if mark = ',' then (readItems fuel depth (item :: done)).run more
      else some (.array (item :: done).reverse, more) := by
  have hends : IsMark mark := by rcases hmark with rfl | rfl <;> simp [IsMark]
  have hclose := hitem.starts.head?_ne (rfl : isStart ']' = false) (mark :: more)
  have hread := hitem.read fuel _ hfuel (hends.endsValue more)
  rw [readItems]
  rcases hmark with rfl | rfl
  · simp [-List.head?_append, hitem.starts.run_skipAllLines ht, hclose, hread,
      hends.run_skipAllLines more]
  · simp [-List.head?_append, hitem.starts.run_skipAllLines ht, hclose, hread,
      hends.run_skipAllLines more, run_expect]

theorem run_readItems {depth : Nat} {items : List Json} {texts : List Text}
    (h : List.Forall₂ (ReadsIn depth) items texts) (rest : Text) {t : Text}
    (ht : t.dropWhile isSpace = (body texts ']' rest).dropWhile isSpace) {fuel : Nat}
    (hfuel : (body texts ']' []).length < fuel) (done : List Json) :
    (readItems fuel depth done).run t = some (.array (done.reverse ++ items), rest) := by
  induction h generalizing t fuel done with
  | nil =>
      obtain ⟨fuel, rfl⟩ := Nat.exists_eq_add_one.mpr (Nat.zero_lt_of_lt hfuel)
      have hclose : t.dropWhile isSpace = ']' :: rest := ht
      have hends : EndsBlanks (t.dropWhile isSpace) := hclose ▸ endsBefore_cons rfl rest
      simp [readItems, run_skipAllLines hends, hclose]
  | @cons item text items texts hitem hrest ih =>
      obtain ⟨fuel, rfl⟩ := Nat.exists_eq_add_one.mpr (Nat.zero_lt_of_lt hfuel)
      cases hrest with
      | nil =>
          rw [body_singleton] at ht hfuel
          rw [List.length_append, List.length_singleton] at hfuel
          rw [run_readItems_item hitem (.inr rfl) ht (by omega), if_neg (by decide),
            List.reverse_cons]
      | @cons next nextText _ texts hnext hmore =>
          rw [body_cons_cons] at ht hfuel
          simp only [List.length_append, List.length_cons] at hfuel
          rw [run_readItems_item hitem (.inl rfl) ht (by omega), if_pos rfl,
            ih (List.dropWhile_cons_of_pos rfl) (by omega)]
          simp

def AssignsIn (depth : Nat) (member : String × Json) (t : Text) : Prop :=
  ∃ v, ReadsIn depth member.2 v ∧ t = (writeKey member.1).toList ++ ' ' :: '=' :: ' ' :: v

theorem AssignsIn.starts {depth : Nat} {member : String × Json} {t : Text}
    (h : AssignsIn depth member t) : Starts t := by
  obtain ⟨v, -, rfl⟩ := h
  obtain ⟨c, u, hkey, hc⟩ := exists_writeKey_eq member.1
  exact ⟨c, _, by rw [hkey, List.cons_append], isStart_of_isKeyStart hc⟩

theorem run_readMembers_member {depth : Nat} {member : String × Json} {text : Text}
    (hmember : AssignsIn depth member text) {t more : Text} {mark : Char}
    (hmark : mark = ',' ∨ mark = '\x7d')
    (ht : t.dropWhile isSpace = (text ++ mark :: more).dropWhile isSpace) {fuel : Nat}
    (hfuel : text.length < fuel) {table changed : Table}
    (hchanged : table.assign? [] member.1 member.2 = some changed) :
    (readMembers (fuel + 1) depth table).run t =
      if mark = ',' then (readMembers fuel depth changed).run more
      else some (changed.toJson, more) := by
  have hends : IsMark mark := by rcases hmark with rfl | rfl <;> simp [IsMark]
  have hclose := hmember.starts.head?_ne (rfl : isStart '\x7d' = false) (mark :: more)
  have hskip := hmember.starts.run_skipAllLines ht
  obtain ⟨v, hv, rfl⟩ := hmember
  have hspace : (' ' :: (v ++ mark :: more)).dropWhile isSpace = v ++ mark :: more :=
    (List.dropWhile_cons_of_pos rfl).trans (hv.starts.dropWhile_isSpace (mark :: more))
  simp only [List.length_append, List.length_cons] at hfuel
  have hread := hv.read fuel (mark :: more) (by omega) (hends.endsValue more)
  have hpath := run_readPath_assignment member.1 (v ++ mark :: more)
  simp only [List.append_assoc, List.cons_append] at hskip hclose
  rw [readMembers]
  rcases hmark with rfl | rfl
  · simp [-List.head?_append, hskip, hclose, hpath, run_expect, hspace, hread, hchanged,
      hends.run_skipAllLines more]
  · simp [-List.head?_append, hskip, hclose, hpath, run_expect, hspace, hread, hchanged,
      hends.run_skipAllLines more]

theorem run_readMembers {depth : Nat} {members : Dictionary Json} {texts : List Text}
    (h : List.Forall₂ (AssignsIn depth) members texts) (rest : Text) {t : Text}
    (ht : t.dropWhile isSpace = (body texts '\x7d' rest).dropWhile isSpace) {fuel : Nat}
    (hfuel : (body texts '\x7d' []).length < fuel) (done : Dictionary Json)
    (hnames : (names (done ++ members)).Nodup) :
    (readMembers fuel depth ⟨false, false, Table.values done⟩).run t =
      some (Json.ofMembers (done ++ members), rest) := by
  induction h generalizing t fuel done with
  | nil =>
      obtain ⟨fuel, rfl⟩ := Nat.exists_eq_add_one.mpr (Nat.zero_lt_of_lt hfuel)
      have hclose : t.dropWhile isSpace = '\x7d' :: rest := ht
      have hends : EndsBlanks (t.dropWhile isSpace) := hclose ▸ endsBefore_cons rfl rest
      simp [readMembers, run_skipAllLines hends, hclose, Table.toJson_values]
  | @cons member text members texts hmember hrest ih =>
      obtain ⟨fuel, rfl⟩ := Nat.exists_eq_add_one.mpr (Nat.zero_lt_of_lt hfuel)
      have hnew : member.1 ∉ names (Table.values done) := by
        rw [Table.names_values]
        exact Dictionary.not_mem_names_of_nodup hnames
      have hassign := Table.assign?_of_not_mem hnew member.2
      have hvalues : Table.values done ++ [(member.1, .value member.2)] =
          Table.values (done ++ [member]) := (Table.values_append done [member]).symm
      have hmoved : done ++ member :: members = done ++ [member] ++ members := by simp
      rw [hvalues] at hassign
      cases hrest with
      | nil =>
          rw [body_singleton] at ht hfuel
          rw [List.length_append, List.length_singleton] at hfuel
          rw [run_readMembers_member hmember (.inr rfl) ht (by omega) hassign, if_neg (by decide),
            Table.toJson_values]
      | @cons next nextText _ texts hnext hmore =>
          rw [body_cons_cons] at ht hfuel
          simp only [List.length_append, List.length_cons] at hfuel
          rw [run_readMembers_member hmember (.inl rfl) ht (by omega) hassign, if_pos rfl,
            ih (List.dropWhile_cons_of_pos rfl) (by omega) (done ++ [member])
              (hmoved ▸ hnames), hmoved]

/-! ## Values -/

theorem isWord_bool (b : Bool) : IsWord (if b then "true" else "false").toList := by
  cases b <;> exact ⟨by simp, List.all_eq_true.mp rfl⟩

theorem isScalarCharacter_of_isDigit {c : Char} (h : c.isDigit = true) :
    isScalarCharacter c = true := by
  simp [isScalarCharacter, Char.isAlphanum, h]

theorem isWord_of_isDigits {t : Text} (h : Text.isDigits t = true) : IsWord t :=
  ⟨(Text.isDigits_iff.mp h).1, fun c hc =>
    isScalarCharacter_of_isDigit ((Text.isDigits_iff.mp h).2 c hc)⟩

theorem IsWord.minus {t : Text} (h : IsWord t) : IsWord ('-' :: t) :=
  ⟨List.cons_ne_nil _ _, List.forall_mem_cons.mpr ⟨rfl, h.all⟩⟩

theorem isWord_integer (n : Int) : IsWord (toString n).toList := by
  rcases Text.toString_cases n with ⟨k, -, htext⟩ | ⟨k, -, -, htext⟩
  · exact htext ▸ isWord_of_isDigits (Text.isDigits_repr k)
  · exact htext ▸ (isWord_of_isDigits (Text.isDigits_repr k)).minus

theorem isWord_float {x : Float} (h : (Binary64.ofFloat x).isFinite = true) :
    IsWord (numberStyle.write x).toList := by
  obtain ⟨negative, m, e, whole, fraction, t, -, hpointed, htext⟩ := exists_write_eq h
  have hword : IsWord t := by
    rw [hpointed.text]
    refine ⟨by simp, fun c hc => ?_⟩
    rcases List.mem_append.mp hc with hmem | hmem
    · exact (isWord_of_isDigits hpointed.isDigits_whole).all c hmem
    · rcases List.mem_cons.mp hmem with rfl | hmem
      · rfl
      · exact (isWord_of_isDigits hpointed.isDigits_fraction).all c hmem
  rw [htext]
  cases negative with
  | false => exact hword
  | true => exact hword.minus

theorem IsWord.readsIn {w : Text} (h : IsWord w) {document : Json}
    (hread : readScalar? w = some document) (depth : Nat) : ReadsIn depth document w := by
  constructor
  · obtain ⟨c, u, rfl⟩ := List.exists_cons_of_ne_nil h.ne_nil
    exact ⟨c, u, rfl, by simp [isStart, h.all c List.mem_cons_self]⟩
  · intro fuel rest hfuel hrest
    obtain ⟨fuel, rfl⟩ := Nat.exists_eq_add_one.mpr (Nat.zero_lt_of_lt hfuel)
    rw [run_readValue_word h hrest, hread]
    rfl

theorem readsIn_string (s : String) (depth : Nat) :
    ReadsIn depth (.string s) (writeString s).toList := by
  constructor
  · exact ⟨_, _, toList_writeString s, rfl⟩
  · intro fuel rest hfuel hrest
    obtain ⟨fuel, rfl⟩ := Nat.exists_eq_add_one.mpr (Nat.zero_lt_of_lt hfuel)
    exact run_readValue_string s hrest fuel depth

theorem body_append (texts : List Text) (close : Char) (rest : Text) :
    body texts close [] ++ rest = body texts close rest := by
  simp [body]

theorem readsIn_array {depth : Nat} (h : depth < maxNesting) {items : List Json} {texts : List Text}
    (hitems : List.Forall₂ (ReadsIn (depth + 1)) items texts) :
    ReadsIn depth (.array items) ('[' :: body texts ']' []) := by
  constructor
  · exact ⟨_, _, rfl, rfl⟩
  · intro fuel rest hfuel _
    obtain ⟨fuel, rfl⟩ := Nat.exists_eq_add_one.mpr (Nat.zero_lt_of_lt hfuel)
    rw [List.cons_append, body_append, run_readValue_bracket fuel h,
      run_readItems hitems rest rfl (Nat.lt_of_succ_lt_succ hfuel)]
    rfl

theorem readsIn_object {depth : Nat} (h : depth < maxNesting) {members : Dictionary Json}
    {texts : List Text} (hmembers : List.Forall₂ (AssignsIn (depth + 1)) members texts)
    (hnames : (names members).Nodup) :
    ReadsIn depth (Json.ofMembers members) ('\x7b' :: body texts '\x7d' []) := by
  constructor
  · exact ⟨_, _, rfl, rfl⟩
  · intro fuel rest hfuel _
    obtain ⟨fuel, rfl⟩ := Nat.exists_eq_add_one.mpr (Nat.zero_lt_of_lt hfuel)
    have hread := run_readMembers hmembers rest rfl (Nat.lt_of_succ_lt_succ hfuel) [] hnames
    rw [List.cons_append, body_append, run_readValue_brace fuel h]
    exact hread

theorem toList_bracketed (texts : List String) (first close : Char) :
    (String.singleton first ++ ", ".intercalate texts ++ String.singleton close).toList =
      first :: body (texts.map String.toList) close [] := by
  simp [body]

theorem assignsIn_of_writeAssignment? {depth : Nat} {name : String} {document value : Json}
    {text : String} (hwrite : writeAssignment? (name, document) = some text)
    (hread : ∀ written, writeValue? document = some written → ReadsIn depth value written.toList) :
    AssignsIn depth (name, value) text.toList := by
  obtain ⟨written, hwritten, rfl⟩ := Option.map_eq_some_iff.mp hwrite
  exact ⟨written.toList, hread written hwritten, by simp⟩

theorem readsIn_of_writeValue? {document : Json} (h : Exact document) {text : String}
    (hwrite : writeValue? document = some text) {depth : Nat}
    (hdepth : document.depth + depth ≤ maxNesting) : ReadsIn depth document.sorted text.toList := by
  induction h generalizing text depth with
  | bool b =>
      obtain rfl := Option.some.inj hwrite
      rw [Json.sorted]
      exact (isWord_bool b).readsIn (readScalar?_bool b) depth
  | @integer n =>
      rw [writeValue?] at hwrite
      split at hwrite
      · rename_i hbounds
        obtain rfl := Option.some.inj hwrite
        simp only [Bool.and_eq_true, decide_eq_true_eq] at hbounds
        rw [Json.sorted]
        exact (isWord_integer n).readsIn (readScalar?_integer hbounds.1 hbounds.2) depth
      · cases hwrite
  | float hfinite =>
      obtain rfl := Option.some.inj hwrite
      rw [Json.sorted]
      exact (isWord_float hfinite).readsIn (readScalar?_float hfinite) depth
  | string s =>
      obtain rfl := Option.some.inj hwrite
      rw [Json.sorted]
      exact readsIn_string s depth
  | @array items _ ih =>
      rw [writeValue?, writeItems?_eq_mapM] at hwrite
      obtain ⟨written, hwritten, htext⟩ := Option.bind_eq_some_iff.mp hwrite
      obtain rfl := Option.some.inj htext
      have hitems : List.Forall₂ (ReadsIn (depth + 1)) (items.map Json.sorted)
          (written.map String.toList) := by
        rw [List.forall₂_map_left_iff, List.forall₂_map_right_iff]
        refine forall₂_of_mapM hwritten fun item hmem result hresult => ih item hmem hresult ?_
        have := Json.depth_lt_array hmem
        omega
      have hroom : depth < maxNesting := by
        rw [Json.depth] at hdepth
        omega
      rw [Json.sorted]
      exact (toList_bracketed written '[' ']').symm ▸ readsIn_array hroom hitems
  | @object members hnames _ ih =>
      rw [writeValue?, writeMembers?_eq_mapM] at hwrite
      obtain ⟨written, hwritten, htext⟩ := Option.bind_eq_some_iff.mp hwrite
      obtain rfl := Option.some.inj htext
      have hmembers : List.Forall₂ (AssignsIn (depth + 1))
          (members.map fun member => (member.1, Json.sorted member.2))
          (written.map String.toList) := by
        rw [List.forall₂_map_left_iff, List.forall₂_map_right_iff]
        refine forall₂_of_mapM hwritten fun member hmem result hresult =>
          assignsIn_of_writeAssignment? hresult fun text htext => ih member hmem htext ?_
        have := Json.depth_lt_object hmem
        omega
      have hroom : depth < maxNesting := by
        rw [Json.depth] at hdepth
        omega
      rw [Json.sorted]
      refine (toList_bracketed written '\x7b' '\x7d').symm ▸ readsIn_object hroom hmembers ?_
      rwa [Dictionary.names_map]

end Reader

end BraceTemplate.Toml
