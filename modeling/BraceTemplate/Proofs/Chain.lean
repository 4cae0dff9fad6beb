import BraceTemplate.Filter.Registry
import BraceTemplate.Proofs.Dictionary
import BraceTemplate.Proofs.Engine.Rendering

/-!
# Steps that fail

A lenient run tries every step of its chain.  It comes to what a strict run of
the steps that did not fail comes to, as a step that fails changes neither the
value nor what is captured.  A strict run of the whole chain ends at the first
step that fails in the lenient run.
-/

namespace BraceTemplate

variable {H : Type}

def Step.write? (value : Value H) (step : Step) : Option (String × Value H) :=
  let name := String.ofList (Text.trim (step.arguments.headD "").toList)
  if step.name = Chain.captureStep ∧ name ≠ "" then some (name, value) else none

namespace Chain

structure Attempt (H : Type) where
  step : Step
  value : Value H
  captures : Dictionary (Value H)

variable (filters : Dictionary (Filter H))

def Attempt.failure? (attempt : Attempt H) : Option FilterError :=
  match (applyStep filters attempt.value attempt.step attempt.captures).1 with
  | .ok _ => none
  | .error cause => some cause

def Attempt.write? (attempt : Attempt H) : Option (String × Value H) :=
  attempt.step.write? attempt.value

def attempt? (chain : List Step) (value : Value H) (captures : Dictionary (Value H))
    (position : Nat) : Option (Attempt H) :=
  match run filters .passthrough (chain.take position) value captures, chain[position]? with
  | (.ok reached, held), some step => some ⟨step, reached, held⟩
  | _, _ => none

def attempts (chain : List Step) (value : Value H) (captures : Dictionary (Value H)) :
    List (Attempt H) :=
  (List.range chain.length).filterMap (attempt? filters chain value captures)

/-! ## One step -/

variable (value : Value H) (step : Step) (captures : Dictionary (Value H))

theorem applyStep_cases :
    (∃ name, step.write? value = some (name, value) ∧
      applyStep filters value step captures = (.ok (.string ""), captures.insert name value)) ∨
    (step.write? value = none ∧ (applyStep filters value step captures).2 = captures) := by
  unfold applyStep Step.write? capture
  generalize Text.trim (step.arguments.headD "").toList = name
  by_cases hstep : step.name = captureStep
  · rcases name with _ | ⟨c, name⟩
    · exact .inr (by simp [hstep]; rfl)
    · exact .inl ⟨String.ofList (c :: name), by simp [hstep], by simp [hstep]; rfl⟩
  · right
    rw [if_neg (fun h => hstep h.1), if_neg hstep]
    cases filters.find? step.name <;> exact ⟨rfl, rfl⟩

variable {filters value step captures} {next : Value H} {after : Dictionary (Value H)}
  {cause : FilterError}

theorem captures_of_applyStep (h : applyStep filters value step captures = (.ok next, after)) :
    after = captures.merge (step.write? value).toList := by
  rcases applyStep_cases filters value step captures with ⟨name, hwrite, happly⟩ | ⟨hwrite, hkept⟩
  · rw [happly] at h
    cases h
    rw [hwrite]
    rfl
  · rw [h] at hkept
    rw [hwrite]
    exact hkept

theorem captures_of_applyStep_error
    (h : applyStep filters value step captures = (.error cause, after)) : after = captures := by
  rcases applyStep_cases filters value step captures with ⟨name, -, happly⟩ | ⟨-, hkept⟩
  · rw [happly] at h
    cases h
  · rw [h] at hkept
    exact hkept

variable (filters) in
theorem run_induction {motive : List Step → Value H → Dictionary (Value H) → Prop}
    (nil : ∀ value captures, motive [] value captures)
    (ok : ∀ step chain value captures next after,
      applyStep filters value step captures = (.ok next, after) →
      motive chain next after → motive (step :: chain) value captures)
    (error : ∀ step chain value captures cause,
      applyStep filters value step captures = (.error cause, captures) →
      motive chain value captures → motive (step :: chain) value captures)
    (chain : List Step) (value : Value H) (captures : Dictionary (Value H)) :
    motive chain value captures := by
  induction chain generalizing value captures with
  | nil => exact nil value captures
  | cons step chain ih =>
      cases happly : applyStep filters value step captures with
      | mk outcome after =>
          cases outcome with
          | ok next => exact ok step chain value captures next after happly (ih next after)
          | error cause =>
              obtain rfl := captures_of_applyStep_error happly
              exact error step chain value _ cause happly (ih value _)

/-! ## One step after another -/

theorem run_cons (policy : FailurePolicy) (step : Step) (chain : List Step) (value : Value H)
    (captures : Dictionary (Value H)) :
    run filters policy (step :: chain) value captures =
      match runStep filters policy value step captures with
      | (.ok next, after) => run filters policy chain next after
      | (.error error, after) => (.error error, after) := by
  rw [run, List.foldlM_cons, Render.bind_apply]
  cases runStep filters policy value step captures with
  | mk outcome after => cases outcome <;> rfl

theorem run_cons_of_ok (h : applyStep filters value step captures = (.ok next, after))
    (chain : List Step) (policy : FailurePolicy) :
    run filters policy (step :: chain) value captures = run filters policy chain next after := by
  rw [run_cons, runStep, h]

theorem run_passthrough_cons_of_error
    (h : applyStep filters value step captures = (.error cause, captures)) (chain : List Step) :
    run filters .passthrough (step :: chain) value captures =
      run filters .passthrough chain value captures := by
  rw [run_cons, runStep, h]

theorem run_propagate_cons_of_error
    (h : applyStep filters value step captures = (.error cause, captures)) (chain : List Step) :
    run filters .propagate (step :: chain) value captures =
      (.error (.filter step.name cause), captures) := by
  rw [run_cons, runStep, h]

theorem attempts_cons
    (h : ∀ chain, run filters .passthrough (step :: chain) value captures =
      run filters .passthrough chain next after) (chain : List Step) :
    attempts filters (step :: chain) value captures =
      ⟨step, value, captures⟩ :: attempts filters chain next after := by
  have hfirst : attempt? filters (step :: chain) value captures 0 =
      some ⟨step, value, captures⟩ := rfl
  have hrest : attempt? filters (step :: chain) value captures ∘ Nat.succ =
      attempt? filters chain next after := by
    funext position
    simp [attempt?, h]
  rw [attempts, List.length_cons, List.range_succ_eq_map, List.filterMap_cons, hfirst,
    List.filterMap_map, hrest]
  rfl

theorem attempts_cons_of_ok (h : applyStep filters value step captures = (.ok next, after))
    (chain : List Step) :
    attempts filters (step :: chain) value captures =
      ⟨step, value, captures⟩ :: attempts filters chain next after :=
  attempts_cons (fun chain => run_cons_of_ok h chain .passthrough) chain

theorem attempts_cons_of_error
    (h : applyStep filters value step captures = (.error cause, captures)) (chain : List Step) :
    attempts filters (step :: chain) value captures =
      ⟨step, value, captures⟩ :: attempts filters chain value captures :=
  attempts_cons (run_passthrough_cons_of_error h) chain

theorem failure?_of_ok (h : applyStep filters value step captures = (.ok next, after)) :
    Attempt.failure? filters ⟨step, value, captures⟩ = none := by
  simp [Attempt.failure?, h]

theorem failure?_of_error (h : applyStep filters value step captures = (.error cause, after)) :
    Attempt.failure? filters ⟨step, value, captures⟩ = some cause := by
  simp [Attempt.failure?, h]

/-! ## Runs -/

variable (filters)

def unfailing (chain : List Step) (value : Value H) (captures : Dictionary (Value H)) :
    List Step :=
  ((attempts filters chain value captures).filter fun attempt =>
    (attempt.failure? filters).isNone).map Attempt.step

theorem map_step_attempts (chain : List Step) (value : Value H)
    (captures : Dictionary (Value H)) :
    (attempts filters chain value captures).map Attempt.step = chain := by
  induction chain, value, captures using run_induction filters with
  | nil value captures => rfl
  | ok step chain value captures next after h ih =>
      rw [attempts_cons_of_ok h, List.map_cons, ih]
  | error step chain value captures cause h ih =>
      rw [attempts_cons_of_error h, List.map_cons, ih]

theorem run_passthrough_eq_ok (chain : List Step) (value : Value H)
    (captures : Dictionary (Value H)) :
    ∃ result after, run filters .passthrough chain value captures = (.ok result, after) ∧
      run filters .propagate (unfailing filters chain value captures) value captures =
        (.ok result, after) := by
  induction chain, value, captures using run_induction filters with
  | nil value captures => exact ⟨value, captures, rfl, rfl⟩
  | ok step chain value captures next after h ih =>
      have hkept : unfailing filters (step :: chain) value captures =
          step :: unfailing filters chain next after := by
        simp [unfailing, attempts_cons_of_ok h, failure?_of_ok h]
      rw [hkept, run_cons_of_ok h, run_cons_of_ok h]
      exact ih
  | error step chain value captures cause h ih =>
      have hskipped : unfailing filters (step :: chain) value captures =
          unfailing filters chain value captures := by
        simp [unfailing, attempts_cons_of_error h, failure?_of_error h]
      rw [hskipped, run_passthrough_cons_of_error h]
      exact ih

theorem run_propagate_isError_iff (chain : List Step) (value : Value H)
    (captures : Dictionary (Value H)) :
    (∃ error, (run filters .propagate chain value captures).1 = .error error) ↔
      ∃ attempt ∈ attempts filters chain value captures,
        (attempt.failure? filters).isSome = true := by
  induction chain, value, captures using run_induction filters with
  | nil value captures =>
      have hok : (run filters .propagate [] value captures).1 = .ok value := rfl
      simp [hok, attempts]
  | ok step chain value captures next after h ih =>
      rw [run_cons_of_ok h, attempts_cons_of_ok h, ih]
      simp [failure?_of_ok h]
  | error step chain value captures cause h ih =>
      rw [run_propagate_cons_of_error h, attempts_cons_of_error h]
      simp [failure?_of_error h]

theorem run_propagate_of_first_failure {chain : List Step} {value : Value H}
    {captures : Dictionary (Value H)} {before after : List (Attempt H)} {failed : Attempt H}
    {cause : FilterError}
    (hattempts : attempts filters chain value captures = before ++ failed :: after)
    (hbefore : ∀ attempt ∈ before, attempt.failure? filters = none)
    (hfailed : failed.failure? filters = some cause) :
    run filters .propagate chain value captures =
        (.error (.filter failed.step.name cause), failed.captures) ∧
      run filters .propagate (before.map Attempt.step) value captures =
        (.ok failed.value, failed.captures) ∧
      failed.captures = captures.merge (before.filterMap Attempt.write?) := by
  induction chain, value, captures using run_induction filters
    generalizing before with
  | nil value captures => simp [attempts] at hattempts
  | ok step chain value captures next middle h ih =>
      rw [attempts_cons_of_ok h] at hattempts
      cases before with
      | nil =>
          -- the first failure is not this step
          obtain ⟨rfl, -⟩ := List.cons.inj hattempts
          rw [failure?_of_ok h] at hfailed
          cases hfailed
      | cons first before =>
          obtain ⟨rfl, hrest⟩ := List.cons.inj hattempts
          obtain ⟨hrun, hbefore, hcaptures⟩ := ih hrest fun attempt hmem =>
            hbefore attempt (List.mem_cons_of_mem _ hmem)
          rw [List.map_cons, run_cons_of_ok h, run_cons_of_ok h]
          refine ⟨hrun, hbefore, ?_⟩
          rw [hcaptures, captures_of_applyStep h, ← Dictionary.merge_append,
            List.filterMap_cons, Attempt.write?]
          cases step.write? value <;> rfl
  | error step chain value captures other h _ =>
      rw [attempts_cons_of_error h] at hattempts
      cases before with
      | nil =>
          obtain ⟨rfl, -⟩ := List.cons.inj hattempts
          rw [failure?_of_error h] at hfailed
          cases hfailed
          exact ⟨run_propagate_cons_of_error h chain, rfl, rfl⟩
      | cons first before =>
          obtain ⟨rfl, -⟩ := List.cons.inj hattempts
          have hnone := hbefore _ List.mem_cons_self
          rw [failure?_of_error h] at hnone
          cases hnone

/--
A lenient run never fails, and is the strict run of the steps that do not fail in
it.  A strict run fails if any step of the lenient run does, by the first of these
and with the values captured that the steps before it store.
-/
theorem run_passthrough_propagate (chain : List Step) (value : Value H)
    (captures : Dictionary (Value H)) :
    let tried := attempts filters chain value captures
    let kept := unfailing filters chain value captures
    tried.map Attempt.step = chain ∧ kept.Sublist chain ∧
      (∃ result after, run filters .passthrough chain value captures = (.ok result, after) ∧
        run filters .propagate kept value captures = (.ok result, after)) ∧
      ((∃ error, (run filters .propagate chain value captures).1 = .error error) ↔
        ∃ attempt ∈ tried, (attempt.failure? filters).isSome = true) ∧
      ∀ before failed after cause, tried = before ++ failed :: after →
        (∀ attempt ∈ before, attempt.failure? filters = none) →
        failed.failure? filters = some cause →
        run filters .propagate chain value captures =
            (.error (.filter failed.step.name cause), failed.captures) ∧
          run filters .propagate (before.map Attempt.step) value captures =
            (.ok failed.value, failed.captures) ∧
          failed.captures = captures.merge (before.filterMap Attempt.write?) := by
  intro tried kept
  have hsteps := map_step_attempts filters chain value captures
  refine ⟨hsteps, ?_, run_passthrough_eq_ok filters chain value captures,
    run_propagate_isError_iff filters chain value captures, ?_⟩
  · have hkept : kept.Sublist (tried.map Attempt.step) := List.filter_sublist.map Attempt.step
    rwa [hsteps] at hkept
  · intro before failed after cause htried hbefore hfailed
    exact run_propagate_of_first_failure filters htried hbefore hfailed

theorem run_passthrough_propagate_mixed :
    let filters := (Registry.builtin : Registry Empty)
    let chain : List Step :=
      [⟨"reverse", []⟩, ⟨"set", [" k "]⟩, ⟨"nope", []⟩, ⟨"set", [" "]⟩, ⟨"set", ["l"]⟩]
    let value := Value.array [.bool true, .null]
    let strict := run filters .propagate chain value []
    let lenient := run filters .passthrough chain value []
    strict.1 = .error (.filter "nope" (.unknown "nope")) ∧ strict.2.names = ["k"] ∧
      unfailing filters chain value [] =
        [⟨"reverse", []⟩, ⟨"set", [" k "]⟩, ⟨"set", ["l"]⟩] ∧
      lenient.2.names = ["k", "l"] := by
  intro filters chain value strict lenient
  have hfailures : (attempts filters chain value []).map
      (fun attempt => (attempt.step.name, attempt.failure? filters)) =
        [("reverse", none), ("set", none), ("nope", some (.unknown "nope")),
          ("set", some (.missingArgument "set" 1)), ("set", none)] := by
    decide +kernel
  obtain ⟨-, -, -, -, hfirst⟩ := run_passthrough_propagate filters chain value []
  refine ⟨?_, by decide +kernel, by decide +kernel, by decide +kernel⟩
  rcases htried : attempts filters chain value [] with
    _ | ⟨first, _ | ⟨second, _ | ⟨third, rest⟩⟩⟩ <;> simp [htried] at hfailures
  obtain ⟨⟨-, hone⟩, ⟨-, htwo⟩, ⟨hname, hthree⟩, -⟩ := hfailures
  have hrun := (hfirst [first, second] third rest _ htried (by simp [hone, htwo]) hthree).1
  rw [show strict = _ from hrun, hname]

end Chain

end BraceTemplate
