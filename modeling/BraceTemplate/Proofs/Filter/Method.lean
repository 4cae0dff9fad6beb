import BraceTemplate.Filter.Logic
import BraceTemplate.Filter.Numeric
import BraceTemplate.Proofs.Filter.Comparison
import BraceTemplate.Proofs.Filter.Textual
import BraceTemplate.Proofs.Number.Digits

/-!
# Methods that are filters

Some methods of plain values have a filter of the same meaning.  Each of the two
checks its input and reads its arguments on its own; they accept the same ones
and then give the same result.
-/

namespace BraceTemplate.Filter

open Value (callMethod decimalsArgument)

variable {H : Type} [HostObject H]

inductive Counterpart : String → Filter H → List String → Prop
  | join (arguments : List String) : Counterpart "join" join arguments
  | len (arguments : List String) : Counterpart "len" size arguments
  | trim (arguments : List String) : Counterpart "trim" trim arguments
  | upcase (arguments : List String) : Counterpart "to_uppercase" upcase arguments
  | downcase (arguments : List String) : Counterpart "to_lowercase" downcase arguments
  | fix {digits : String} (more : List String) (h : Text.isDigits digits.toList = true) :
      Counterpart "to_fixed" fix (digits :: more)

theorem toOption_bind {α β : Type} (outcome : Except FilterError α)
    (f : α → Except FilterError β) :
    (outcome >>= f).toOption = outcome.toOption.bind fun a => (f a).toOption := by
  cases outcome <;> rfl

/-! ## Counts of decimals -/

section Digits

variable {digits : String} (h : Text.isDigits digits.toList = true) (more : List String)

include h

theorem decimalsArgument_of_isDigits (method : String) :
    (decimalsArgument method (digits :: more)).toOption =
      if Text.digitsValue digits.toList ≤ maxDecimals then some (Text.digitsValue digits.toList)
      else none := by
  have hwritten : Value.mapText Text.trim digits = digits := by
    rw [Value.mapText, Text.trim_of_isDigits h, String.ofList_toList]
  unfold decimalsArgument
  simp only [List.head?_cons, Option.map_some, Option.getD_some, hwritten,
    Text.readIndex?_of_isDigits h]
  by_cases hword : Text.digitsValue digits.toList < 2 ^ 64
  · rw [if_pos hword]
    change (if Text.digitsValue digits.toList ≤ maxDecimals then Except.ok _ else _).toOption = _
    split_ifs <;> rfl
  · have hmany : ¬ Text.digitsValue digits.toList ≤ maxDecimals := by
      unfold maxDecimals
      omega
    rw [if_neg hword, if_neg hmany]
    rfl

theorem countArgument_of_isDigits (filter : String) :
    countArgument filter (digits :: more) 0 =
      .ok (saturatingIndex (floatOfDecimal (Text.digitsValue digits.toList) 0)) := by
  have hread : readNumber? (Text.trim digits.toList) =
      some (floatOfDecimal (Text.digitsValue digits.toList) 0) := by
    rw [Text.trim_of_isDigits h, Text.readNumber?_of_isDigits h]
  rw [countArgument,
    numberArgument_of_readNumber? (rfl : (digits :: more)[0]? = some digits) hread]
  exact if_neg (not_floatOfDecimal_lt_zero _)

end Digits

/-! ## Methods and filters -/

section Plain

variable {value : Value H} (plain : ∀ host, value ≠ .object host)

include plain

theorem callMethod_to_fixed (arguments : List String) :
    value.callMethod "to_fixed" arguments = (do
      let x ← value.asNumber?.elim (.error (.methodNotFound "to_fixed")) Except.ok
      let places ← decimalsArgument "to_fixed" arguments
      pure (.string (writeFixed places x))) := by
  cases value with
  | object host => exact absurd rfl (plain host)
  | _ => rfl

theorem to_fixed_toOption {digits : String} (h : Text.isDigits digits.toList = true)
    (more : List String) :
    (value.callMethod "to_fixed" (digits :: more)).toOption =
      (fix value (digits :: more)).toOption := by
  have hword : maxDecimals < 2 ^ 53 := by decide
  rw [callMethod_to_fixed plain, fix, numberInput]
  cases value.asNumber? with
  | none => rfl
  | some x =>
      simp only [Option.elim_some, toOption_bind, countArgument_of_isDigits h,
        decimalsArgument_of_isDigits h]
      by_cases hfew : Text.digitsValue digits.toList ≤ maxDecimals
      · have hexact := saturatingIndex_floatOfDecimal (hfew.trans_lt hword)
        simp [hexact, hfew, Except.toOption]
      · have hmany := mt (saturatingIndex_floatOfDecimal_le_iff hword).mp hfew
        simp [hmany, hfew, Except.toOption]

theorem callMethod_toOption (present : value.isUndefined = false) {method : String}
    {filter : Filter H} {arguments : List String} (h : Counterpart method filter arguments) :
    (value.callMethod method arguments).toOption = (filter value arguments).toOption := by
  cases value with
  | object host => exact absurd rfl (plain host)
  | _ =>
      cases h with
      | join arguments => rfl
      | len arguments => rfl
      | trim arguments => rw [trim, onText_of_present present]; rfl
      | upcase arguments => rw [upcase, onText_of_present present]; rfl
      | downcase arguments => rw [downcase, onText_of_present present]; rfl
      | fix more hdigits => exact to_fixed_toOption plain hdigits more

/--
A method of a value that is no host object succeeds exactly if the filter of the
same meaning does, and with the same result; blanks around the name do not matter.
-/
theorem call_counterpart (present : value.isUndefined = false) {method written : String}
    {filter : Filter H} {arguments : List String} (h : Counterpart method filter arguments)
    (hwritten : Text.Pads method.toList written.toList) :
    (call value (written :: arguments)).toOption = (filter value arguments).toOption := by
  have hname : Text.trim method.toList = method.toList := by
    cases h <;> decide
  have hmethod : Value.mapText Text.trim written = method := by
    rw [Value.mapText, hwritten.trim_eq, hname, String.ofList_toList]
  have hcall : call value (written :: arguments) = value.callMethod method arguments := by
    rw [← hmethod]
    rfl
  rw [hcall]
  exact callMethod_toOption plain present h

end Plain

theorem call_counterpart_to_fixed :
    let value : Value Empty := .string " 2.5 "
    let digits := "000000000000000000000000000002"
    (∀ host, value ≠ .object host) ∧ value.isUndefined = false ∧
      Counterpart (H := Empty) "to_fixed" fix [digits] ∧
      Text.Pads "to_fixed".toList "\tto_fixed ".toList ∧
      (fix value [digits]).toOption = some (.string "2.50") ∧
      (call value ["\tto_fixed ", digits]).toOption = some (.string "2.50") := by
  intro value digits
  have hdigits : Text.isDigits digits.toList = true := by decide
  have hnumber : numberInput "fix" value = .ok 2.5 := by rfl
  have hvalue : Text.digitsValue digits.toList = 2 := by decide
  have hplaces : countArgument "fix" [digits] 0 = .ok 2 := by
    rw [countArgument_of_isDigits hdigits, hvalue]
    rfl
  have hwrite : writeFixed 2 2.5 = "2.50" := by rfl
  have hfix : (fix value [digits]).toOption = some (.string "2.50") := by
    rw [fix, hnumber, hplaces, ← hwrite]
    rfl
  have plain : ∀ host, value ≠ .object host := fun host => host.elim
  have hcounterpart : Counterpart (H := Empty) "to_fixed" fix [digits] := .fix [] hdigits
  have hwritten : Text.Pads "to_fixed".toList "\tto_fixed ".toList :=
    ⟨['\t'], [' '], by decide, by decide, by decide⟩
  exact ⟨plain, rfl, hcounterpart, hwritten, hfix,
    (call_counterpart plain rfl hcounterpart hwritten).trans hfix⟩

end BraceTemplate.Filter
