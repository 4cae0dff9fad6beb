import BraceTemplate.Filter.Sequence
import BraceTemplate.Filter.Textual
import BraceTemplate.Proofs.Text.Markup
import BraceTemplate.Proofs.Text.Percent
import BraceTemplate.Proofs.Text.Words

/-!
# Laws of the filters on text

No tag is left in a text that was cleaned, and no wide gap in one that was
packed.  What `sanitize` and `url` write can be read back, and `split` and
`join` undo each other.
-/

namespace BraceTemplate.Filter

variable {H : Type} [HostObject H]

theorem display_string (s : String) : (Value.string s : Value H).display = s := by
  rw [Value.display]

theorem toList_mapText (f : Text → Text) (s : String) :
    (Value.mapText f s).toList = f s.toList := by
  rw [Value.mapText, String.toList_ofList]

section Present

variable {value : Value H} (present : value.isUndefined = false)

include present

theorem textInput_of_present (filter : String) : textInput filter value = .ok value.display := by
  rw [textInput, present]
  rfl

theorem onText_of_present (filter : String) (f : Text → Text) (arguments : List String) :
    onText filter f value arguments = .ok (.string (Value.mapText f value.display)) := by
  rw [onText, textInput_of_present present]
  rfl

/-! ## Markup -/

/--
A cleaned text is the text without its tags, which are dropped in one pass; what
comes together holds no tag, and a text without tags stays as it is.
-/
theorem clean_tagFree (arguments : List String) :
    ∃ output, clean value arguments = .ok (.string output) ∧
      Text.TagFree output.toList ∧
      (Text.TagFree value.display.toList → output = value.display) ∧
      output.toList.Sublist value.display.toList ∧
      Text.RemovesTags value.display.toList output.toList ∧
      ∀ more, clean (.string output : Value H) more = .ok (.string output) := by
  have hfree := Text.tagFree_removeTags value.display.toList
  refine ⟨Value.mapText Text.removeTags value.display, onText_of_present present _ _ arguments,
    ?_, ?_, ?_, ?_, fun more => ?_⟩
  · rw [toList_mapText]
    exact hfree
  · intro hdisplay
    rw [Value.mapText, Text.removeTags_of_tagFree hdisplay, String.ofList_toList]
  · rw [toList_mapText]
    exact Text.removeTags_sublist _
  · rw [toList_mapText]
    exact Text.removesTags_removeTags _
  · rw [clean, onText_of_present rfl, display_string, Value.mapText, toList_mapText,
      Text.removeTags_of_tagFree hfree, Value.mapText]

end Present

theorem clean_tagFree_nested :
    let value : Value Empty := .string "<<b>script> </> <> 1 < 2"
    value.isUndefined = false ∧
      clean value [] = .ok (.string "script>  <> 1 < 2") ∧
      Text.TagFree "script>  <> 1 < 2".toList ∧
      clean (.string "script>  <> 1 < 2" : Value Empty) [] = .ok (.string "script>  <> 1 < 2") := by
  intro value
  have present : value.isUndefined = false := rfl
  have hrun : clean value [] = .ok (.string "script>  <> 1 < 2") := by
    rw [clean, onText_of_present present, display_string]
    rfl
  obtain ⟨output, houtput, hfree, -, -, -, hagain⟩ := clean_tagFree present []
  obtain rfl := Value.string.inj (Except.ok.inj (hrun.symm.trans houtput))
  exact ⟨present, hrun, hfree, hagain []⟩

/-! ## Blanks -/

section Present

variable {value : Value H} (present : value.isUndefined = false)

include present

/--
A packed text has no blank at its ends and no two blanks side by side.  Its words
are those of the text; between two of them stands the blank that stood there
alone, or a space for several.  Packing it again changes nothing.
-/
theorem pack_normalizes (arguments : List String) :
    ∃ output, pack value arguments = .ok (.string output) ∧
      Text.Packed output.toList ∧
      Text.words output.toList = Text.words value.display.toList ∧
      ((Text.AllBlank value.display.toList ∧ output = "") ∨
        ∃ core, Text.Pads core value.display.toList ∧ Text.Narrows core output.toList) ∧
      ∀ more, pack (.string output : Value H) more = .ok (.string output) := by
  have hpacked := Text.packed_collapse_trim value.display.toList
  refine ⟨Value.mapText (fun t => Text.collapse t.trim) value.display,
    onText_of_present present _ _ arguments, ?_, ?_, ?_, fun more => ?_⟩
  · rw [toList_mapText]
    exact hpacked
  · rw [toList_mapText]
    exact Text.words_collapse_trim _
  · rcases Text.collapse_trim_cases value.display.toList with ⟨hblank, hnil⟩ | hnarrows
    · exact .inl ⟨hblank, by rw [Value.mapText, hnil]⟩
    · rw [toList_mapText]
      exact .inr hnarrows
  · rw [pack, onText_of_present rfl, display_string, Value.mapText, toList_mapText,
      hpacked.collapse_trim, Value.mapText]

end Present

theorem pack_normalizes_mixed :
    let value : Value Empty := .string "\t a\u00a0b\tc \n d\u3000"
    let output := "a\u00a0b\tc d"
    value.isUndefined = false ∧
      pack value [] = .ok (.string output) ∧
      Text.Packed output.toList ∧
      Text.words output.toList = [['a'], ['b'], ['c'], ['d']] ∧
      pack (.string output : Value Empty) [] = .ok (.string output) := by
  intro value output
  have present : value.isUndefined = false := rfl
  have hrun : pack value [] = .ok (.string output) := by
    rw [pack, onText_of_present present, display_string]
    rfl
  obtain ⟨written, hwritten, hpacked, hwords, -, hagain⟩ := pack_normalizes present []
  obtain rfl : output = written :=
    Value.string.inj (Except.ok.inj (hrun.symm.trans hwritten))
  rw [display_string] at hwords
  exact ⟨present, hrun, hpacked, hwords.trans (by decide), hagain []⟩

/-! ## Codes -/

section Present

variable {value : Value H} (present : value.isUndefined = false)

include present

/--
A sanitized text holds none of the signs of markup and no ampersand but those
that start entities.  Reading the entities gives the text back, so that values
with the same sanitized text are shown alike.
-/
theorem sanitize_reversible (arguments : List String) :
    ∃ output, sanitize value arguments = .ok (.string output) ∧
      Text.Lacks ['<', '>', '\x22', '\x27', '/'] output.toList ∧
      Text.WritesEntities output.toList ∧
      Text.decodeEntities output.toList = value.display.toList ∧
      ∀ other : Value H, other.isUndefined = false → ∀ more,
        sanitize other more = .ok (.string output) → other.display = value.display := by
  refine ⟨Value.mapText Text.encodeEntities value.display,
    onText_of_present present _ _ arguments, ?_, ?_, ?_, fun other hother more hsame => ?_⟩
  · rw [toList_mapText]
    exact Text.lacks_encodeEntities _
  · rw [toList_mapText]
    exact Text.writesEntities_encodeEntities _
  · rw [toList_mapText, Text.decodeEntities_encodeEntities]
  · rw [sanitize, onText_of_present hother] at hsame
    have hwritten := Value.string.inj (Except.ok.inj hsame)
    have hdecoded := congrArg (fun s => Text.decodeEntities s.toList) hwritten
    simpa only [toList_mapText, Text.decodeEntities_encodeEntities, String.toList_inj]
      using hdecoded

/--
An encoded text holds letters, digits, the marks of addresses and triples of a
percent sign and two digits in base sixteen.  Reading the triples gives the
bytes of the text in UTF-8.
-/
theorem url_reversible (arguments : List String) :
    ∃ output, url value arguments = .ok (.string output) ∧
      Text.PercentEncoded output.toList ∧ Text.WritesTriples output.toList ∧
      Text.percentDecode output.toList = Text.bytes value.display := by
  have hencoded := Text.percentEncoded_flatMap (Text.bytes value.display)
  refine ⟨Value.mapText Text.percentEncode value.display,
    onText_of_present present _ _ arguments, ?_, ?_, ?_⟩
  all_goals rw [toList_mapText, Text.percentEncode_eq_flatMap]
  · exact hencoded
  · exact hencoded.writesTriples
  · exact Text.percentDecode_flatMap _

end Present

theorem sanitize_reversible_again :
    let value : Value Empty := .string "</b> &lt; 'é' \""
    let output := "&lt;&#x2F;b&gt; &amp;lt; &#39;é&#39; &quot;"
    value.isUndefined = false ∧
      sanitize value [] = .ok (.string output) ∧
      Text.decodeEntities output.toList = "</b> &lt; 'é' \"".toList ∧
      ∀ other : Value Empty, other.isUndefined = false → ∀ more,
        sanitize other more = .ok (.string output) → other.display = "</b> &lt; 'é' \"" := by
  intro value output
  have present : value.isUndefined = false := rfl
  have hrun : sanitize value [] = .ok (.string output) := by
    rw [sanitize, onText_of_present present, display_string]
    rfl
  obtain ⟨written, hwritten, -, -, hdecoded, hsame⟩ := sanitize_reversible present []
  obtain rfl : output = written :=
    Value.string.inj (Except.ok.inj (hrun.symm.trans hwritten))
  rw [display_string] at hdecoded hsame
  exact ⟨present, hrun, hdecoded, hsame⟩

theorem url_reversible_percent :
    let value : Value Empty := .string "/a?b=%2F é"
    let output := "/a?b=%252F%20%C3%A9"
    value.isUndefined = false ∧
      url value [] = .ok (.string output) ∧
      Text.PercentEncoded output.toList ∧
      Text.percentDecode output.toList = Text.bytes "/a?b=%2F é" := by
  intro value output
  have present : value.isUndefined = false := rfl
  have hrun : url value [] = .ok (.string output) := by
    rw [url, onText_of_present present, display_string]
    rfl
  obtain ⟨written, hwritten, hencoded, -, hdecoded⟩ := url_reversible present []
  obtain rfl : output = written :=
    Value.string.inj (Except.ok.inj (hrun.symm.trans hwritten))
  rw [display_string] at hdecoded
  exact ⟨present, hrun, hencoded, hdecoded⟩

/-! ## Splitting and joining -/

def SeparatesBy (separator : String) : List String → Prop
  | [] => separator = ","
  | first :: _ => separator = first

theorem SeparatesBy.eq_headD {separator : String} {arguments : List String}
    (h : SeparatesBy separator arguments) : arguments.headD "," = separator := by
  cases arguments <;> exact h.symm

theorem split_of_present {value : Value H} (present : value.isUndefined = false)
    {separator : String} {arguments : List String} (h : SeparatesBy separator arguments) :
    split value arguments =
      .ok (.array ((Text.split separator.toList value.display.toList).map
        fun piece => .string (String.ofList piece))) := by
  rw [split, textInput_of_present present, h.eq_headD]
  rfl

theorem join_array {separator : String} {arguments : List String}
    (h : SeparatesBy separator arguments) (items : List (Value H)) :
    join (.array items) arguments =
      .ok (.string (separator.intercalate (items.map Value.display))) := by
  rw [join, h.eq_headD]
  rfl

theorem toList_intercalate_eq_join (separator : String) (texts : List String) :
    (separator.intercalate texts).toList =
      Text.join separator.toList (texts.map String.toList) := by
  rw [String.toList_intercalate, Text.join_eq_intercalate]

section Inverse

variable {separator : String} {splitArguments joinArguments : List String}
  (hsplit : SeparatesBy separator splitArguments) (hjoin : SeparatesBy separator joinArguments)

include hsplit hjoin

theorem exists_split_join {value : Value H} (present : value.isUndefined = false) :
    ∃ pieces, split value splitArguments = .ok pieces ∧
      join pieces joinArguments = .ok (.string value.display) := by
  refine ⟨_, split_of_present present hsplit, ?_⟩
  have htext : separator.intercalate (((Text.split separator.toList value.display.toList).map
      fun piece => (Value.string (String.ofList piece) : Value H)).map Value.display) =
        value.display := by
    rw [← String.toList_inj, toList_intercalate_eq_join]
    simp [Function.comp_def, display_string, Text.join_split]
  rw [join_array hjoin, htext]

theorem exists_join_split {first : Char} {rest : Text} (hfirst : separator.toList = first :: rest)
    {items : List String} (hitems : items ≠ []) (hlacks : ∀ item ∈ items, first ∉ item.toList) :
    ∃ text : Value H, join (.array (items.map Value.string)) joinArguments = .ok text ∧
      split text splitArguments = .ok (.array (items.map Value.string)) := by
  refine ⟨_, join_array hjoin _, ?_⟩
  have hpieces : Text.split separator.toList
      (Text.join separator.toList (items.map String.toList)) = items.map String.toList := by
    rw [hfirst]
    exact Text.split_join (by simpa using hitems) (List.forall_mem_map.mpr hlacks)
  rw [split_of_present rfl hsplit, display_string, toList_intercalate_eq_join]
  simp [Function.comp_def, display_string, hpieces]

/--
Joining the pieces of a text gives the text back, whatever the separator, and
splitting the joined items of an array gives back the items, if there are any
and the characters of the separator stand in none of them.
-/
theorem split_join_inverse :
    (∀ value : Value H, value.isUndefined = false →
        ∃ pieces, split value splitArguments = .ok pieces ∧
          join pieces joinArguments = .ok (.string value.display)) ∧
      (separator ≠ "" → ∀ items : List String, items ≠ [] →
        (∀ item ∈ items, Text.Lacks separator.toList item.toList) →
        ∃ text : Value H, join (.array (items.map Value.string)) joinArguments = .ok text ∧
          split text splitArguments = .ok (.array (items.map Value.string))) := by
  refine ⟨fun value present => exists_split_join hsplit hjoin present, ?_⟩
  intro hseparator items hitems hlacks
  obtain ⟨first, rest, hfirst⟩ : ∃ first rest, separator.toList = first :: rest :=
    List.exists_cons_of_ne_nil (by simpa using hseparator)
  exact exists_join_split hsplit hjoin hfirst hitems fun item hitem =>
    hlacks item hitem first (by simp [hfirst])

end Inverse

theorem split_join_inverse_overlapping :
    let value : Value Empty := .string "aaaaa"
    let items := ["", "a;b", "é"]
    SeparatesBy "aa" ["aa"] ∧ SeparatesBy "," [] ∧ SeparatesBy "," [","] ∧
      value.isUndefined = false ∧
      (∀ item ∈ items, Text.Lacks ",".toList item.toList) ∧
      split value ["aa"] = .ok (.array [.string "", .string "", .string "a"]) ∧
      join (.array [.string "", .string "", .string "a"] : Value Empty) ["aa"] =
        .ok (.string "aaaaa") ∧
      ∃ text : Value Empty, join (.array (items.map Value.string)) [","] = .ok text ∧
        split text [] = .ok (.array (items.map Value.string)) := by
  intro value items
  have hself : SeparatesBy "aa" ["aa"] := rfl
  have hdefault : SeparatesBy "," [] := rfl
  have hcomma : SeparatesBy "," [","] := rfl
  have hlacks : ∀ item ∈ items, Text.Lacks ",".toList item.toList := by decide
  have hpieces : split value ["aa"] = .ok (.array [.string "", .string "", .string "a"]) := by
    have hpresent : value.isUndefined = false := rfl
    rw [split_of_present hpresent hself, display_string]
    cbv
  obtain ⟨pieces, hsplit, hjoin⟩ := (split_join_inverse (H := Empty) hself hself).1 value rfl
  obtain rfl : _ = pieces := Except.ok.inj (hpieces.symm.trans hsplit)
  rw [display_string] at hjoin
  have hback := (split_join_inverse (H := Empty) hdefault hcomma).2 (by decide) items (by decide)
    hlacks
  exact ⟨hself, hdefault, hcomma, rfl, hlacks, hpieces, hjoin, hback⟩

end BraceTemplate.Filter
