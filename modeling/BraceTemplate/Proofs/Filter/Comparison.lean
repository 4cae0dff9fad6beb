import BraceTemplate.Proofs.Chain
import BraceTemplate.Proofs.Number.Order

/-!
# Chains of comparisons

A comparison passes a value on as it is, refuses it by the boolean `false`, or
fails.  Given that `false` it can only pass it on or refuse it again, so that a
lenient chain of comparisons refuses its value if any of its steps does, in
whatever order they stand.
-/

namespace BraceTemplate

variable {H : Type}

namespace Filter

def Judges (value : Value H) (outcome : Except FilterError (Value H)) : Prop :=
  ∀ result, outcome = .ok result → result = value ∨ result = .bool false

def IsComparison (filter : Filter H) : Prop :=
  ∀ value arguments, Judges value (filter value arguments)

def comparisonNames : List String :=
  ["empty", "notempty", "more", "less", "ormore", "orless", "between", "equals", "notequals",
    "like", "notlike", "divisible", "even", "odd"]

/-! ## Outcomes -/

theorem judges_passIf (value : Value H) (condition : Bool) :
    Judges value (.ok (passIf value condition)) := by
  rintro result ⟨⟩
  cases condition with
  | true => exact .inl rfl
  | false => exact .inr rfl

theorem judges_bind {α : Type} {value : Value H} (outcome : Except FilterError α)
    {f : α → Except FilterError (Value H)} (h : ∀ a, Judges value (f a)) :
    Judges value (outcome >>= f) := by
  cases outcome with
  | error cause =>
      intro result hresult
      cases hresult
  | ok a => exact h a

theorem judges_ite_isFalse {value : Value H} {outcome : Except FilterError (Value H)}
    (h : Judges value outcome) :
    Judges value (if value.isFalse then .ok (.bool false) else outcome) := by
  split
  · rintro result ⟨⟩
    exact .inr rfl
  · exact h

/-! ## The built-in comparisons -/

section Number

@[simp] theorem comparison_isComparison (filter : String) (accept : Ordering → Bool) :
    IsComparison (comparison (H := H) filter accept) := fun value arguments =>
  judges_bind (argument filter arguments 0) fun _ => judges_passIf value _

@[simp] theorem between_isComparison : IsComparison (between (H := H)) := fun value arguments =>
  judges_bind (numberArgument "between" arguments 0) fun _ =>
    judges_bind (numberArgument "between" arguments 1) fun _ => judges_passIf value _

@[simp] theorem divisible_isComparison : IsComparison (divisible (H := H)) :=
  fun value arguments =>
    judges_ite_isFalse <|
      judges_bind (numberInput "divisible" value) fun _ =>
        judges_bind (numberArgument "divisible" arguments 0) fun _ => judges_passIf value _

@[simp] theorem parity_isComparison (filter : String) (remainder : Float) :
    IsComparison (parity (H := H) filter remainder) := fun value _ =>
  judges_ite_isFalse <|
    judges_bind (numberInput filter value) fun _ => judges_passIf value _

end Number

section Textual

variable [HostObject H]

@[simp] theorem empty_isComparison : IsComparison (empty (H := H)) := fun value _ =>
  judges_passIf value _

@[simp] theorem notempty_isComparison : IsComparison (notempty (H := H)) := fun value _ =>
  judges_passIf value _

@[simp] theorem equality_isComparison (filter : String) (expected : Bool) :
    IsComparison (equality (H := H) filter expected) := fun value arguments =>
  judges_bind (argument filter arguments 0) fun _ => judges_passIf value _

@[simp] theorem matching_isComparison (filter : String) (expected : Bool) :
    IsComparison (matching (H := H) filter expected) := fun value arguments =>
  judges_bind (argument filter arguments 0) fun written =>
    judges_bind (patternArgument filter true written) fun _ =>
      judges_bind (textInput filter value) fun _ => judges_passIf value _

theorem exists_isComparison_of_mem {name : String} (h : name ∈ comparisonNames) :
    ∃ filter, (Registry.builtin : Registry H).find? name = some filter ∧ IsComparison filter := by
  revert name
  simp [comparisonNames, Registry.builtin, Dictionary.find?_cons]

end Textual

/-! ## Bounds -/

theorem numberArgument_of_readNumber? {arguments : List String} {index : Nat} {text : String}
    {x : Float} (hget : arguments[index]? = some text)
    (hread : readNumber? (Text.trim text.toList) = some x) (filter : String) :
    numberArgument filter arguments index = .ok x := by
  have hargument : argument filter arguments index = .ok text := by
    rw [argument, hget]
  rw [numberArgument, hargument]
  simp [bind, Except.bind, hread]

section Bound

variable {value : Value H} {x : Float} (hvalue : Measure.ofValue? value = some (.number x))

include hvalue

theorem comparison_of_number {bound : String} {y : Float}
    (hbound : readNumber? (Text.trim bound.toList) = some y) (filter : String)
    (accept : Ordering → Bool) :
    comparison filter accept value [bound] =
      .ok (passIf value ((compareNumbers? x y).any accept)) := by
  have horder : ((Measure.ofValue? value).bind fun measure => measure.compareBound? bound) =
      compareNumbers? x y := by
    rw [hvalue, Option.bind_some]
    unfold Measure.compareBound?
    simp only [hbound]
  rw [← horder]
  rfl

theorem between_of_number {first second : String} {low high : Float}
    (hlow : readNumber? (Text.trim first.toList) = some low)
    (hhigh : readNumber? (Text.trim second.toList) = some high) :
    between value [first, second] = .ok (passIf value (low ≤ x && x ≤ high)) := by
  unfold between
  rw [numberArgument_of_readNumber? (rfl : [first, second][0]? = some first) hlow,
    numberArgument_of_readNumber? (rfl : [first, second][1]? = some second) hhigh]
  simp only [bind, Except.bind, hvalue]
  rfl

end Bound

end Filter

namespace Chain

open BraceTemplate.Filter

variable (filters : Dictionary (Filter H))

/-- The filter of the step gives the boolean `false` for the value. -/
def Refuses (value : Value H) (step : Step) : Prop :=
  ∃ filter, filters.find? step.name = some filter ∧
    filter value step.arguments = .ok (.bool false)

def Compares (step : Step) : Prop :=
  step.name ≠ captureStep ∧
    ∃ filter, filters.find? step.name = some filter ∧ IsComparison filter

variable {filters}

/-! ## Runs -/

theorem runStep_of_compares {step : Step} (h : Compares filters step) (value : Value H)
    (captures : Dictionary (Value H)) :
    (Refuses filters value step →
        runStep filters .passthrough value step captures = (.ok (.bool false), captures)) ∧
      (¬ Refuses filters value step →
        runStep filters .passthrough value step captures = (.ok value, captures)) := by
  obtain ⟨hname, filter, hfind, hfilter⟩ := h
  have happly : applyStep filters value step captures =
      (filter value step.arguments, captures) := by
    rw [applyStep, if_neg hname, hfind]
    rfl
  have hrefuses : Refuses filters value step ↔ filter value step.arguments = .ok (.bool false) := by
    simp [Refuses, hfind]
  rw [hrefuses, runStep, happly]
  constructor
  · intro hfalse
    rw [hfalse]
  · intro haccepts
    cases houtcome : filter value step.arguments with
    | error cause => rfl
    | ok result =>
        rcases hfilter value step.arguments result houtcome with rfl | rfl
        · rfl
        · exact absurd houtcome haccepts

theorem run_of_compares {chain : List Step} (h : ∀ step ∈ chain, Compares filters step)
    (value : Value H) (captures : Dictionary (Value H)) :
    ((∃ step ∈ chain, Refuses filters value step) →
        run filters .passthrough chain value captures = (.ok (.bool false), captures)) ∧
      ((∀ step ∈ chain, ¬ Refuses filters value step) →
        run filters .passthrough chain value captures = (.ok value, captures)) := by
  induction chain generalizing value with
  | nil => exact ⟨by simp, fun _ => rfl⟩
  | cons step chain ih =>
      obtain ⟨hstep, hchain⟩ := List.forall_mem_cons.mp h
      obtain ⟨hrefused, haccepted⟩ := runStep_of_compares hstep value captures
      -- once refused, the value is `false`, and so is what any further step makes of it
      have hfalse : run filters .passthrough chain (.bool false) captures =
          (.ok (.bool false), captures) := by
        by_cases hagain : ∃ step ∈ chain, Refuses filters (.bool false) step
        · exact (ih hchain (.bool false)).1 hagain
        · exact (ih hchain (.bool false)).2 (by simpa using hagain)
      rw [run_cons]
      constructor
      · intro hsome
        by_cases hfirst : Refuses filters value step
        · rw [hrefused hfirst]
          exact hfalse
        · rw [haccepted hfirst]
          exact (ih hchain value).1 (by simpa [hfirst] using hsome)
      · intro hnone
        obtain ⟨hfirst, hrest⟩ := List.forall_mem_cons.mp hnone
        rw [haccepted hfirst]
        exact (ih hchain value).2 hrest

theorem run_eq_of_refuses_iff {chain other : List Step} {value : Value H}
    (h : ∀ step ∈ chain, Compares filters step) (hother : ∀ step ∈ other, Compares filters step)
    (hiff : (∃ step ∈ other, Refuses filters value step) ↔
      ∃ step ∈ chain, Refuses filters value step) (captures : Dictionary (Value H)) :
    run filters .passthrough other value captures =
      run filters .passthrough chain value captures := by
  by_cases hrefused : ∃ step ∈ chain, Refuses filters value step
  · rw [(run_of_compares h value captures).1 hrefused,
      (run_of_compares hother value captures).1 (hiff.mpr hrefused)]
  · rw [(run_of_compares h value captures).2 (by simpa using hrefused),
      (run_of_compares hother value captures).2 (by simpa using mt hiff.mp hrefused)]

/-! ## The built-in comparisons -/

section Builtin

variable [HostObject H]
  (hfilters : ∀ name ∈ comparisonNames, filters.find? name = Registry.builtin.find? name)

include hfilters

theorem compares_of_mem {step : Step} (h : step.name ∈ comparisonNames) :
    Compares filters step := by
  obtain ⟨filter, hfind, hfilter⟩ := exists_isComparison_of_mem (H := H) h
  refine ⟨?_, filter, (hfilters _ h).trans hfind, hfilter⟩
  rintro hname
  rw [hname] at h
  simp [comparisonNames, captureStep] at h

theorem refuses_range_iff {value : Value H} {x low high : Float} {first second : String}
    (hvalue : Measure.ofValue? value = some (.number x))
    (hlow : readNumber? (Text.trim first.toList) = some low)
    (hhigh : readNumber? (Text.trim second.toList) = some high) :
    (Refuses filters value ⟨"ormore", [first]⟩ ∨ Refuses filters value ⟨"orless", [second]⟩) ↔
      Refuses filters value ⟨"between", [first, second]⟩ := by
  have hormore : filters.find? "ormore" = some (comparison "ormore" (· != .lt)) :=
    hfilters _ (by simp [comparisonNames])
  have horless : filters.find? "orless" = some (comparison "orless" (· != .gt)) :=
    hfilters _ (by simp [comparisonNames])
  have hbetween : filters.find? "between" = some between :=
    hfilters _ (by simp [comparisonNames])
  simp only [Refuses, hormore, horless, hbetween, Option.some.injEq, exists_eq_left',
    comparison_of_number hvalue hlow, comparison_of_number hvalue hhigh,
    between_of_number hvalue hlow hhigh, Except.ok.injEq, any_ne_lt_compareNumbers?,
    any_ne_gt_compareNumbers?]
  by_cases hl : low ≤ x <;> by_cases hh : x ≤ high <;> simp [passIf, hl, hh]

/--
A lenient chain of built-in comparisons refuses its value if one of them refuses
it, and otherwise passes it on; their order does not matter.  Two bounds one
after the other are a range.
-/
theorem run_comparisons {chain : List Step} (hchain : ∀ step ∈ chain, step.name ∈ comparisonNames)
    (value : Value H) (captures : Dictionary (Value H)) :
    ((∃ step ∈ chain, Refuses filters value step) →
        run filters .passthrough chain value captures = (.ok (.bool false), captures)) ∧
      ((∀ step ∈ chain, ¬ Refuses filters value step) →
        run filters .passthrough chain value captures = (.ok value, captures)) ∧
      (∀ other : List Step, other.Perm chain →
        run filters .passthrough other value captures =
          run filters .passthrough chain value captures) ∧
      ∀ (x low high : Float) (first second : String),
        Measure.ofValue? value = some (.number x) →
        readNumber? (Text.trim first.toList) = some low →
        readNumber? (Text.trim second.toList) = some high →
        run filters .passthrough [⟨"ormore", [first]⟩, ⟨"orless", [second]⟩] value captures =
          run filters .passthrough [⟨"between", [first, second]⟩] value captures := by
  have hcompares : ∀ step ∈ chain, Compares filters step := fun step hmem =>
    compares_of_mem hfilters (hchain step hmem)
  obtain ⟨hrefused, haccepted⟩ := run_of_compares hcompares value captures
  refine ⟨hrefused, haccepted, ?_, ?_⟩
  · intro other hperm
    refine run_eq_of_refuses_iff hcompares (fun step hmem => ?_) ?_ captures
    · exact hcompares step (hperm.mem_iff.mp hmem)
    · simp only [hperm.mem_iff]
  · intro x low high first second hvalue hlow hhigh
    refine run_eq_of_refuses_iff ?_ ?_ ?_ captures
    · intro step hmem
      obtain rfl := List.mem_singleton.mp hmem
      exact compares_of_mem hfilters (by simp [comparisonNames])
    · intro step hmem
      simp only [List.mem_cons, List.not_mem_nil, or_false] at hmem
      rcases hmem with rfl | rfl <;> exact compares_of_mem hfilters (by simp [comparisonNames])
    · simpa using refuses_range_iff hfilters hvalue hlow hhigh

end Builtin

theorem run_comparisons_refused :
    let filters := (Registry.builtin : Registry Empty).insert "shout" Filter.upcase
    let value : Value Empty := .array [.null, .null]
    let chain : List Step := [⟨"even", []⟩, ⟨"ormore", ["2"]⟩, ⟨"orless", [" 1.5 "]⟩]
    (∀ name ∈ comparisonNames, filters.find? name = Registry.builtin.find? name) ∧
      (∀ step ∈ chain, step.name ∈ comparisonNames) ∧
      (∃ step ∈ chain, Refuses filters value step) ∧
      run filters .passthrough chain value [] = (.ok (.bool false), []) ∧
      run filters .passthrough chain.reverse value [] = (.ok (.bool false), []) ∧
      run filters .passthrough [⟨"between", ["2", " 1.5 "]⟩] value [] =
        run filters .passthrough chain.tail value [] := by
  intro filters value chain
  have hfilters : ∀ name ∈ comparisonNames, filters.find? name = Registry.builtin.find? name := by
    intro name hname
    rw [Dictionary.find?_insert, if_neg]
    rintro rfl
    simp [comparisonNames] at hname
  have hchain : ∀ step ∈ chain, step.name ∈ comparisonNames := by decide
  have hread : readNumber? (Text.trim " 1.5 ".toList) = some (floatOfDecimal 15 (-1)) := by
    decide +kernel
  have hrefuses : ∃ step ∈ chain, Refuses filters value step := by
    refine ⟨⟨"orless", [" 1.5 "]⟩, by simp [chain], comparison "orless" (· != .gt), rfl, ?_⟩
    rw [comparison_of_number (x := Float.ofNat 2) rfl hread]
    have horder : (compareNumbers? (Float.ofNat 2) (floatOfDecimal 15 (-1))).any (· != .gt) =
        false := by
      decide +kernel
    rw [horder]
    rfl
  obtain ⟨hrun, -, hperm, hrange⟩ := run_comparisons hfilters hchain value []
  exact ⟨hfilters, hchain, hrefuses, hrun hrefuses,
    (hperm chain.reverse chain.reverse_perm).trans (hrun hrefuses),
    (hrange (Float.ofNat 2) (floatOfDecimal 2 0) _ "2" " 1.5 " rfl (by decide +kernel) hread).symm⟩

end Chain

end BraceTemplate
