import BraceTemplate.Command.Arguments
import BraceTemplate.Proofs.Text.Cut
import Mathlib.Data.List.Forall2

/-!
# What arguments give

Each argument gives a switch, the value of the option in front of it, or an option with
its value attached.  Arguments that are accepted hold what is given so, each definition
taken apart at its first equals sign.
-/

namespace BraceTemplate.Command

/-! ## Definitions -/

/-- A name without an equals sign, the sign and what follows. -/
def IsDefinition (text : String) (definition : String × String) : Prop :=
  '=' ∉ definition.1.toList ∧ text = definition.1 ++ "=" ++ definition.2

theorem readDefinition_eq_ok_iff {text : String} {definition : String × String} :
    readDefinition text = .ok definition ↔ IsDefinition text definition := by
  obtain ⟨name, value⟩ := definition
  constructor
  · intro h
    unfold readDefinition at h
    cases hcut : Text.cut? ['='] text.toList with
    | none => simp [hcut] at h
    | some parts =>
        obtain ⟨before, after⟩ := parts
        simp only [hcut, Except.ok.injEq, Prod.mk.injEq] at h
        obtain ⟨rfl, rfl⟩ := h
        have hname : '=' ∉ before := by
          intro hmem
          obtain ⟨earlier, later, rfl⟩ := List.append_of_mem hmem
          exact Text.not_infix_of_cut? hcut ⟨earlier, later, by simp⟩
        refine ⟨by simpa using hname, ?_⟩
        rw [← String.toList_inj]
        simpa using Text.eq_append_of_cut? hcut
  · rintro ⟨hname, rfl⟩
    have hcut : Text.cut? ['='] (name.toList ++ '=' :: value.toList) =
        some (name.toList, value.toList) := by
      rw [Text.cut?_append_of_not_mem hname, Text.cut?_cons]
      simp
    simp [readDefinition, hcut]

theorem exists_of_bind {ε α β : Type} {first : Except ε α} {next : α → Except ε β} {result : β}
    (h : first >>= next = .ok result) : ∃ a, first = .ok a ∧ next a = .ok result := by
  cases first with
  | error cause => cases h
  | ok a => exact ⟨a, rfl, h⟩

/-! ## What is given -/

inductive Given where
  | value (target : Valued) (text : String)
  | switch (target : Switch)
  deriving DecidableEq, Repr

/-- What an option gives, and the option that waits for the next argument. -/
def optionGives : Option Named → Option String → List Given × Option Valued
  | some (.valued target), some text => ([.value target text], none)
  | some (.valued target), none => ([], some target)
  | some (.switch target), _ => ([.switch target], none)
  | none, _ => ([], none)

def nameGives (t : Text) : List Given × Option Valued :=
  match Text.cut? ['='] t with
  | some (name, text) => optionGives (named? (String.ofList name)) (some (String.ofList text))
  | none => optionGives (named? (String.ofList t)) none

def letterGives (letter : Char) : Text → List Given × Option Valued
  | [] => optionGives (lettered? letter) none
  | '=' :: text => optionGives (lettered? letter) (some (String.ofList text))
  | text => optionGives (lettered? letter) (some (String.ofList text))

def argumentGives : Option Valued → String → List Given × Option Valued
  | some target, text => ([.value target text], none)
  | none, argument =>
      match argument.toList with
      | '-' :: '-' :: name => nameGives name
      | '-' :: letter :: rest => letterGives letter rest
      | _ => ([.value .template argument], none)

/-- What arguments give in their order; behind two hyphens there are templates only. -/
def given : Option Valued → List String → List Given
  | _, [] => []
  | waiting, argument :: rest =>
      if waiting = none ∧ argument = "--" then rest.map (.value .template)
      else (argumentGives waiting argument).1 ++ given (argumentGives waiting argument).2 rest

def values (target : Valued) (gives : List Given) : List String :=
  gives.filterMap fun
    | .value other text => if other = target then some text else none
    | .switch _ => none

@[simp] theorem values_append (target : Valued) (first second : List Given) :
    values target (first ++ second) = values target first ++ values target second :=
  List.filterMap_append ..

@[simp] theorem values_value (target other : Valued) (text : String) :
    values target [.value other text] = if other = target then [text] else [] := by
  by_cases h : other = target <;> simp [values, h]

@[simp] theorem values_switch (target : Valued) (switch : Switch) :
    values target [.switch switch] = [] := rfl

/-- Each option is given as often as it is present, and each definition once, in order. -/
structure Describes (gives : List Given) (a : Arguments) : Prop where
  template : values .template gives = a.template.toList
  context : values .context gives = a.context.toList
  config : values .config gives = a.config.toList
  delimiter : values .delimiter gives = a.delimiter.toList
  defines : List.Forall₂ IsDefinition (values .define gives) a.defines
  compact : a.compact = true ↔ .switch .compact ∈ gives
  strictFilters : a.strictFilters = true ↔ .switch .strictFilters ∈ gives

theorem eq_of_enterPath {present path : Option String} {text : String}
    (h : enterPath present text = .ok path) : present = none ∧ path = some text := by
  unfold enterPath at h
  split at h
  · cases h
  · rename_i hpresent
    split at h
    · cases h
    · cases h
      exact ⟨by simpa using hpresent, rfl⟩

namespace Describes

variable {gives : List Given} {a entered : Arguments}

theorem initial : Describes [] .none :=
  ⟨rfl, rfl, rfl, rfl, .nil, by simp [Arguments.none], by simp [Arguments.none]⟩

theorem enter {target : Valued} {text : String} (ha : Describes gives a)
    (h : enter a target text = .ok entered) :
    Describes (gives ++ [.value target text]) entered := by
  obtain ⟨htemplate, hcontext, hconfig, hdelimiter, hdefines, hcompact, hstrict⟩ := ha
  cases target with
  | template | context | config =>
      obtain ⟨path, hpath, hentered⟩ := exists_of_bind h
      cases hentered
      obtain ⟨hnone, rfl⟩ := eq_of_enterPath hpath
      constructor <;> simp [*]
  | delimiter =>
      simp only [Command.enter] at h
      split at h
      · cases h
      · rename_i hnone
        rw [Bool.not_eq_true, Option.isSome_eq_false_iff, Option.isNone_iff_eq_none] at hnone
        cases h
        constructor <;> simp [*]
  | define =>
      simp only [Command.enter] at h
      split at h
      · rename_i definition hread
        cases h
        have hdefinition := readDefinition_eq_ok_iff.mp hread
        constructor <;> simp [*]
        exact List.rel_append hdefines (.cons hdefinition .nil)
      · cases h

end Describes

/-! ## Reading -/

namespace ArgumentReader

def held (r : ArgumentReader) : List Given :=
  match r.pending with
  | some (target, some text) => [.value target text]
  | _ => []

def waiting? (r : ArgumentReader) : Option Valued :=
  match r.pending with
  | some (target, none) => some target
  | _ => none

/-- What was given is entered, and last comes what is held. -/
structure Follows (gives : List Given) (waiting : Option Valued) (trailing : Bool)
    (r : ArgumentReader) : Prop where
  entered : ∃ entered, Describes entered r.arguments ∧ gives = entered ++ r.held
  waiting : r.waiting? = waiting
  trailing : r.trailing = trailing

theorem eq_help_of_lettered? {letter : Char} {target : Switch}
    (h : lettered? letter = some (.switch target)) : target = .help := by
  unfold lettered? at h
  split at h
  · cases h
  · split at h
    · cases h
    · split at h
      · cases h
        rfl
      · cases h

namespace Follows

variable {gives : List Given} {waiting : Option Valued} {trailing : Bool}
  {r next : ArgumentReader}

theorem initial : Follows [] none false .initial :=
  ⟨⟨[], .initial, rfl⟩, rfl, rfl⟩

theorem of_describes (h : Describes gives r.arguments) (hpending : r.pending = none)
    (htrailing : r.trailing = trailing) : Follows gives none trailing r := by
  refine ⟨⟨gives, h, ?_⟩, ?_, htrailing⟩
  · rw [held, hpending, List.append_nil]
  · rw [waiting?, hpending]

theorem settle (hr : Follows gives waiting trailing r) (h : r.settle = .ok next) :
    waiting = none ∧ next.pending = none ∧ next.trailing = trailing ∧
      Describes gives next.arguments := by
  obtain ⟨⟨entered, hentered, rfl⟩, rfl, rfl⟩ := hr
  unfold ArgumentReader.settle at h
  split at h
  · rename_i hpending
    cases h
    simpa [waiting?, held, hpending] using hentered
  · cases h
  · rename_i target text hpending
    obtain ⟨arguments, henter, hnext⟩ := exists_of_bind h
    cases hnext
    simpa [waiting?, held, hpending] using hentered.enter henter

theorem turnOn {target : Switch} (hr : Follows gives waiting trailing r)
    (h : r.turnOn target = .ok next) :
    waiting = none ∧ Follows (gives ++ [.switch target]) none trailing next := by
  obtain ⟨settled, hsettle, hnext⟩ := exists_of_bind h
  obtain ⟨hwaiting, hpending, rfl, hsettled⟩ := hr.settle hsettle
  refine ⟨hwaiting, ?_⟩
  obtain ⟨htemplate, hcontext, hconfig, hdelimiter, hdefines, hcompact, hstrict⟩ := hsettled
  cases target with
  | help => cases hnext
  | compact | strictFilters =>
      dsimp only at hnext
      split at hnext
      · cases hnext
      · cases hnext
        refine of_describes ?_ hpending rfl
        constructor <;> simp [*]

theorem take {target : Valued} {attached : Option String} (hr : Follows gives waiting trailing r)
    (h : r.take target attached = .ok next) :
    waiting = none ∧ Follows (gives ++ (optionGives (some (.valued target)) attached).1)
      (optionGives (some (.valued target)) attached).2 trailing next := by
  obtain ⟨settled, hsettle, hnext⟩ := exists_of_bind h
  obtain ⟨hwaiting, hpending, rfl, hsettled⟩ := hr.settle hsettle
  refine ⟨hwaiting, ?_⟩
  cases attached with
  | none =>
      cases hnext
      exact ⟨⟨gives, hsettled, rfl⟩, rfl, rfl⟩
  | some text =>
      obtain ⟨arguments, henter, hentered⟩ := exists_of_bind hnext
      cases hentered
      exact of_describes (hsettled.enter henter) hpending rfl

theorem readName {t : Text} (hr : Follows gives waiting trailing r)
    (h : r.readName t = .ok next) :
    waiting = none ∧ Follows (gives ++ (nameGives t).1) (nameGives t).2 trailing next := by
  unfold ArgumentReader.readName at h
  split at h
  rename_i name attached hparts
  have hgives : nameGives t = optionGives (named? (String.ofList name)) attached := by
    unfold nameGives
    split at hparts <;> cases hparts <;> simp [*]
  rw [hgives]
  split at h
  · rename_i target hnamed
    rw [hnamed]
    exact hr.take h
  · rename_i target hnamed
    rw [hnamed]
    split at h
    · cases h
    · exact hr.turnOn h
  · cases h

theorem readLetters {letter : Char} {rest : Text} (hr : Follows gives waiting trailing r)
    (h : r.readLetters (letter :: rest) = .ok next) :
    waiting = none ∧ Follows (gives ++ (letterGives letter rest).1)
      (letterGives letter rest).2 trailing next := by
  unfold ArgumentReader.readLetters at h
  unfold letterGives
  split at h
  · rename_i target hletter
    rw [hletter]
    split at h
    · exact hr.take h
    · exact hr.take h
    · rename_i hnil hsign
      split
      · exact (hnil rfl).elim
      · exact (hsign _ rfl).elim
      · exact hr.take h
  · rename_i target hletter
    obtain ⟨switched, hswitch, -⟩ := exists_of_bind h
    obtain rfl := eq_help_of_lettered? hletter
    obtain ⟨settled, -, hhelp⟩ := exists_of_bind hswitch
    cases hhelp
  · cases h

theorem readValue {argument : String} (hr : Follows gives waiting trailing r)
    (h : r.readValue argument = .ok next) :
    (waiting = none ∨ trailing = false) ∧
      Follows (gives ++ [.value (waiting.getD .template) argument]) none trailing next := by
  unfold ArgumentReader.readValue at h
  split at h
  · rename_i target hpending htrailing
    cases h
    obtain ⟨⟨entered, hentered, rfl⟩, rfl, rfl⟩ := hr
    refine ⟨.inr htrailing, ⟨entered, hentered, ?_⟩, rfl, rfl⟩
    simp [held, waiting?, hpending]
  · split at h
    · obtain ⟨settled, hsettle, hnext⟩ := exists_of_bind h
      obtain ⟨rfl, hpending, rfl, hsettled⟩ := hr.settle hsettle
      cases hnext
      exact ⟨.inl rfl, ⟨gives, hsettled, rfl⟩, rfl, rfl⟩
    · cases h

theorem read {argument : String} (hr : Follows gives waiting false r) (hend : argument ≠ "--")
    (h : r.read argument = .ok next) :
    Follows (gives ++ (argumentGives waiting argument).1) (argumentGives waiting argument).2 false
      next := by
  unfold ArgumentReader.read at h
  rw [hr.trailing, if_neg Bool.false_ne_true] at h
  split at h
  · rename_i htext
    exact absurd (String.toList_inj.mp htext) hend
  · rename_i name _ htext
    obtain ⟨rfl, hnext⟩ := hr.readName h
    rwa [argumentGives, htext]
  · rename_i letter rest _ hhyphen htext
    obtain ⟨rfl, hnext⟩ := hr.readLetters h
    rw [argumentGives, htext]
    split
    · rename_i heq
      cases heq
      exact (hhyphen rfl).elim
    · rename_i heq
      cases heq
      exact hnext
    · rename_i hno
      exact (hno letter rest rfl).elim
  · rename_i hname hletters
    obtain ⟨-, hnext⟩ := hr.readValue h
    cases waiting with
    | some target => exact hnext
    | none =>
        rw [argumentGives]
        split
        · exact (hname _ ‹_›).elim
        · exact (hletters _ _ ‹_›).elim
        · exact hnext

theorem run_trailing {arguments : List String} {after settled : ArgumentReader}
    (hr : Follows gives waiting true r) (h : arguments.foldlM ArgumentReader.read r = .ok after)
    (hsettle : after.settle = .ok settled) :
    waiting = none ∧
      Describes (gives ++ arguments.map (.value .template)) settled.arguments := by
  induction arguments generalizing gives waiting r with
  | nil =>
      cases h
      obtain ⟨hwaiting, -, -, hsettled⟩ := hr.settle hsettle
      simpa using ⟨hwaiting, hsettled⟩
  | cons argument rest ih =>
      rw [List.foldlM_cons] at h
      obtain ⟨next, hread, hnext⟩ := exists_of_bind h
      rw [ArgumentReader.read, hr.trailing, if_pos rfl] at hread
      obtain ⟨hwaiting | hfalse, hafter⟩ := hr.readValue hread
      · subst hwaiting
        simpa using ih hafter hnext
      · cases hfalse

theorem run {arguments : List String} {after settled : ArgumentReader}
    (hr : Follows gives waiting false r) (h : arguments.foldlM ArgumentReader.read r = .ok after)
    (hsettle : after.settle = .ok settled) :
    Describes (gives ++ given waiting arguments) settled.arguments := by
  induction arguments generalizing gives waiting r with
  | nil =>
      cases h
      obtain ⟨-, -, -, hsettled⟩ := hr.settle hsettle
      rwa [given, List.append_nil]
  | cons argument rest ih =>
      rw [List.foldlM_cons] at h
      obtain ⟨next, hread, hnext⟩ := exists_of_bind h
      by_cases hend : argument = "--"
      · subst hend
        have hnow : Follows gives waiting true next := by
          rw [ArgumentReader.read, hr.trailing] at hread
          cases hread
          exact ⟨hr.entered, hr.waiting, rfl⟩
        obtain ⟨rfl, hsettled⟩ := hnow.run_trailing hnext hsettle
        simpa [given] using hsettled
      · have hafter := ih (hr.read hend hread) hnext
        rw [List.append_assoc] at hafter
        rwa [given, if_neg fun hboth => hend hboth.2]

end Follows

end ArgumentReader

theorem describes_of_readArguments {arguments : List String} {a : Arguments}
    (h : readArguments arguments = .ok a) : Describes (given none arguments) a := by
  obtain ⟨after, hread, hrest⟩ := exists_of_bind h
  obtain ⟨settled, hsettle, hchecked⟩ := exists_of_bind hrest
  have hdescribes := ArgumentReader.Follows.initial.run hread hsettle
  split at hchecked
  · cases hchecked
  · cases hchecked
    exact hdescribes

end BraceTemplate.Command
