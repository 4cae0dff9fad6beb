import BraceTemplate.Proofs.Template.Expression

/-!
# Layouts of directives

A directive can be written with any blanks around its path and the names of its
steps, and with any before the word `if` of a condition.  Reading gives the
directive back from all its written forms: the text is cut at bars and
delimiters that none of the pieces has, and trimming takes the blanks off again.
-/

namespace BraceTemplate

/-! ## Steps -/

namespace Step

def Writes (delimiter : Text) (step : Step) (written : Text) : Prop :=
  ∃ name, Text.Pads step.name.toList name ∧
    written = Text.join delimiter (name :: step.arguments.map String.toList)

structure Writable (delimiter : Text) (step : Step) : Prop where
  trimmed : Text.trim step.name.toList = step.name.toList
  named : step.name ≠ ""
  name_lacks : Text.Lacks ('|' :: delimiter) step.name.toList
  arguments_lack : ∀ argument ∈ step.arguments, Text.Lacks ('|' :: delimiter) argument.toList

instance (delimiter : Text) (step : Step) : Decidable (step.Writable delimiter) :=
  decidable_of_iff
    (Text.trim step.name.toList = step.name.toList ∧ step.name ≠ "" ∧
      Text.Lacks ('|' :: delimiter) step.name.toList ∧
      ∀ argument ∈ step.arguments, Text.Lacks ('|' :: delimiter) argument.toList)
    ⟨fun h => ⟨h.1, h.2.1, h.2.2.1, h.2.2.2⟩,
      fun h => ⟨h.trimmed, h.named, h.name_lacks, h.arguments_lack⟩⟩

section Forms

variable {delimiter : Text} {step : Step} {written : Text}

theorem pieces_apart (hstep : step.Writable delimiter) {name : Text}
    (hname : Text.Pads step.name.toList name) {c : Char} (hblank : Text.isBlank c = false)
    (hc : c ∈ '|' :: delimiter) :
    ∀ piece ∈ name :: step.arguments.map String.toList, c ∉ piece := by
  intro piece hpiece
  rcases List.mem_cons.mp hpiece with rfl | hargument
  · exact hname.not_mem hblank (hstep.name_lacks c hc)
  · obtain ⟨argument, hmem, rfl⟩ := List.mem_map.mp hargument
    exact hstep.arguments_lack argument hmem c hc

theorem read?_of_writes (hne : delimiter ≠ [])
    (hdelimiter : ∀ c ∈ delimiter, Text.isBlank c = false) (hstep : step.Writable delimiter)
    (h : step.Writes delimiter written) : read? delimiter written = some step := by
  obtain ⟨name, hname, rfl⟩ := h
  obtain ⟨first, rest, rfl⟩ := List.exists_cons_of_ne_nil hne
  have hsplit : Text.split (first :: rest)
      (Text.join (first :: rest) (name :: step.arguments.map String.toList)) =
        name :: step.arguments.map String.toList :=
    Text.split_join (List.cons_ne_nil _ _)
      (pieces_apart hstep hname (hdelimiter first List.mem_cons_self) (by simp))
  have htrim : Text.trim name = step.name.toList := hname.trim_eq.trans hstep.trimmed
  have hnamed : step.name.toList.isEmpty = false := by
    simpa [List.isEmpty_iff, String.toList_eq_nil_iff] using hstep.named
  simp [read?, hsplit, htrim, hnamed]

theorem bar_not_mem_of_writes (hdelimiter : '|' ∉ delimiter) (hstep : step.Writable delimiter)
    (h : step.Writes delimiter written) : '|' ∉ written := by
  obtain ⟨name, hname, rfl⟩ := h
  have hpieces := pieces_apart hstep hname (c := '|') (by decide) (by simp)
  rw [Text.join, List.mem_append, List.mem_flatMap]
  rintro (hmem | ⟨piece, hpiece, hmem⟩)
  · exact hpieces name List.mem_cons_self hmem
  · rcases List.mem_append.mp hmem with hmem | hmem
    · exact hdelimiter hmem
    · exact hpieces piece (List.mem_cons_of_mem name hpiece) hmem

end Forms

end Step

/-! ## Directives -/

namespace Directive

def WritesKeyword (conditional : Bool) (written : Text) : Prop :=
  if conditional then
    ∃ before blank, written = before ++ ['i', 'f', blank] ∧
      Text.AllBlank before ∧ Text.isBlank blank = true
  else written = []

def Writes (delimiter : Text) (d : Directive) (written : Text) : Prop :=
  ∃ keyword path steps, WritesKeyword d.conditional keyword ∧ Text.Pads d.path.toList path ∧
    List.Forall₂ (Step.Writes delimiter) d.chain steps ∧
    written = keyword ++ Text.join ['|'] (path :: steps)

structure Writable (delimiter : Text) (d : Directive) : Prop where
  trimmed : Text.trim d.path.toList = d.path.toList
  path_apart : '|' ∉ d.path.toList
  steps : ∀ step ∈ d.chain, step.Writable delimiter

instance (delimiter : Text) (d : Directive) : Decidable (d.Writable delimiter) :=
  decidable_of_iff
    (Text.trim d.path.toList = d.path.toList ∧ '|' ∉ d.path.toList ∧
      ∀ step ∈ d.chain, step.Writable delimiter)
    ⟨fun h => ⟨h.1, h.2.1, h.2.2⟩, fun h => ⟨h.trimmed, h.path_apart, h.steps⟩⟩

theorem read_steps {delimiter : Text} (hne : delimiter ≠ [])
    (hdelimiter : ∀ c ∈ delimiter, Text.isBlank c = false ∧ c ≠ '|') {chain : List Step}
    {written : List Text} (hchain : ∀ step ∈ chain, step.Writable delimiter)
    (h : List.Forall₂ (Step.Writes delimiter) chain written) :
    written.filterMap (Step.read? delimiter) = chain ∧ ∀ part ∈ written, '|' ∉ part := by
  induction h with
  | nil => simp
  | cons hwrites hrest ih =>
      obtain ⟨hstep, hsteps⟩ := List.forall_mem_cons.mp hchain
      obtain ⟨hread, hbars⟩ := ih hsteps
      have hfirst := Step.read?_of_writes hne (fun c hc => (hdelimiter c hc).1) hstep hwrites
      have hbar := Step.bar_not_mem_of_writes (fun hmem => (hdelimiter _ hmem).2 rfl) hstep hwrites
      constructor
      · rw [List.filterMap_cons_some hfirst, hread]
      · exact List.forall_mem_cons.mpr ⟨hbar, hbars⟩

theorem expression_of_writesKeyword {conditional : Bool} {keyword rest : Text}
    (h : WritesKeyword conditional keyword)
    (hplain : conditional = false → isConditional (keyword ++ rest) = false) :
    isConditional (keyword ++ rest) = conditional ∧
      ∃ blanks, Text.AllBlank blanks ∧
        (if conditional then (keyword ++ rest).trimStart.drop 2 else keyword ++ rest) =
          blanks ++ rest := by
  cases conditional with
  | false =>
      obtain rfl : keyword = [] := h
      exact ⟨hplain rfl, [], by decide, by simp⟩
  | true =>
      obtain ⟨before, blank, rfl, hbefore, hblank⟩ := h
      have hstart : (before ++ ['i', 'f', blank] ++ rest).trimStart =
          'i' :: 'f' :: blank :: rest := by
        rw [List.append_assoc, Text.trimStart_append hbefore]
        rfl
      refine ⟨isConditional_iff.mpr ⟨blank, rest, hstart, hblank⟩, [blank], ?_, ?_⟩
      · exact List.forall_mem_singleton.mpr hblank
      · rw [if_pos rfl, hstart]
        rfl

/--
Reading gives back the directive from every form in which it is written, if the
form has no escaped sign and is taken for a condition only where one is meant.
-/
theorem read_of_writes {delimiter : Text} (hne : delimiter ≠ [])
    (hdelimiter : ∀ c ∈ delimiter, Text.isBlank c = false ∧ c ≠ '|') {d : Directive}
    (hd : d.Writable delimiter) {written : Text} (hwrites : d.Writes delimiter written)
    (hsign : ¬ escapedSign <:+: written)
    (hplain : d.conditional = false → isConditional written = false) :
    read delimiter written d.selfClosing = d := by
  have hreplace : Text.replace escapedSign ['>'] written = written :=
    Text.replace_of_cut?_none (Text.cut?_eq_none_iff.mpr hsign) _
  obtain ⟨keyword, path, steps, hkeyword, hpath, hsteps, hwritten⟩ := hwrites
  rw [hwritten] at hplain
  obtain ⟨hconditional, blanks, hblanks, hexpression⟩ :=
    expression_of_writesKeyword hkeyword hplain
  obtain ⟨hchain, hbars⟩ := read_steps hne hdelimiter hd.steps hsteps
  have hpads := hpath.append_left hblanks
  have hfields : Text.fields (· == '|') (blanks ++ Text.join ['|'] (path :: steps)) =
      (blanks ++ path) :: steps := by
    have hjoin : blanks ++ Text.join ['|'] (path :: steps) =
        Text.join ['|'] ((blanks ++ path) :: steps) := by
      simp [Text.join]
    rw [hjoin]
    apply Text.fields_join (by simp)
    exact List.forall_mem_cons.mpr ⟨hpads.not_mem (by decide) hd.path_apart, hbars⟩
  rw [read, hreplace, hwritten]
  simp [hconditional, hexpression, hfields, hpads.trim_eq, hd.trimmed, hchain]

theorem read_of_writes_keyword :
    let delimiter : Text := [':', ':']
    let condition : Directive := ⟨true, "if a", [⟨"more", [" 1 ", ""]⟩, ⟨"not empty", []⟩], true⟩
    let path : Directive := ⟨false, "if", [⟨"add", ["if x"]⟩], false⟩
    read delimiter "\n if\u00a0 if a |\u3000more :: 1 ::|not empty\n".toList true = condition ∧
      read delimiter "if|add::if x".toList false = path := by
  intro delimiter condition path
  have hmore : Step.Writes delimiter ⟨"more", [" 1 ", ""]⟩ "\u3000more :: 1 ::".toList :=
    ⟨"\u3000more ".toList, ⟨['\u3000'], [' '], by decide +kernel⟩, by decide +kernel⟩
  have hempty : Step.Writes delimiter ⟨"not empty", []⟩ "not empty\n".toList :=
    ⟨"not empty\n".toList, ⟨[], ['\n'], by decide +kernel⟩, by decide +kernel⟩
  have hadd : Step.Writes delimiter ⟨"add", ["if x"]⟩ "add::if x".toList :=
    ⟨"add".toList, ⟨[], [], by decide +kernel⟩, by decide +kernel⟩
  have hcondition : condition.Writes delimiter
      "\n if\u00a0 if a |\u3000more :: 1 ::|not empty\n".toList :=
    ⟨"\n if\u00a0".toList, " if a ".toList, _, ⟨['\n', ' '], '\u00a0', by decide +kernel⟩,
      ⟨[' '], [' '], by decide +kernel⟩, .cons hmore (.cons hempty .nil), by decide +kernel⟩
  have hpath : path.Writes delimiter "if|add::if x".toList :=
    ⟨[], "if".toList, _, rfl, ⟨[], [], by decide +kernel⟩, .cons hadd .nil, by decide +kernel⟩
  have hdelimiter : ∀ c ∈ delimiter, Text.isBlank c = false ∧ c ≠ '|' := by
    simp [delimiter, Text.isBlank]
  exact ⟨read_of_writes (by decide) hdelimiter (d := condition) (by decide +kernel) hcondition
      (by decide +kernel) (by decide),
    read_of_writes (by decide) hdelimiter (d := path) (by decide +kernel) hpath
      (by decide +kernel) (by decide +kernel)⟩

end Directive

end BraceTemplate
