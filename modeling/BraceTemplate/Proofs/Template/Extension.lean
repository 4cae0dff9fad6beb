import BraceTemplate.Chain
import BraceTemplate.Proofs.Template.Concatenation
import BraceTemplate.Proofs.Template.Expression
import Mathlib.Data.List.Infix

/-!
# Expressions with one more step

A step written behind an expression, after a bar, is one more step of its chain.
The tag around both ends where it should, if the step has no brace.
-/

namespace BraceTemplate

/-! ## Tags -/

private theorem getLast?_append_cons_ne {c d : Char} (hne : d ≠ c) {after : Text}
    (h : after.getLast? ≠ some c) (before : Text) : (before ++ d :: after).getLast? ≠ some c := by
  cases hlast : after.getLast? with
  | none => simp [List.getLast?_cons, hlast, hne]
  | some e => simpa [List.getLast?_cons, hlast] using h

namespace Tag

variable {t step : Text}

theorem Standalone.append_step (h : (⟨t⟩ : Tag).Standalone) (hbrace : '}' ∉ step) :
    (⟨t ++ '|' :: step⟩ : Tag).Standalone := by
  obtain ⟨hnil, hclosing, -⟩ := standalone_iff.mp h
  have hstep : Text.cut? closing step = none := by
    have hcut : Text.cut? ['}', '}'] (step ++ []) = _ := Text.cut?_append_of_not_mem hbrace []
    rw [List.append_nil] at hcut
    exact hcut
  rw [standalone_iff, List.tail_append_of_ne_nil hnil]
  refine ⟨by simp, ?_, ?_⟩
  · -- the bar keeps closing braces from reaching over it
    rw [closing, ← Text.cut?_eq_none_iff,
      Text.cut?_append_cons_of_none (by decide) (Text.cut?_eq_none_iff.mpr hclosing), ← closing,
      hstep, Option.map_none]
  · exact getLast?_append_cons_ne (by decide) (fun hlast => hbrace (List.mem_of_getLast? hlast)) _

theorem kind_append_step (h : (⟨t⟩ : Tag).kind = .expression t false)
    (hslash : step.getLast? ≠ some '/') :
    (⟨t ++ '|' :: step⟩ : Tag).kind = .expression (t ++ '|' :: step) false := by
  obtain ⟨-, hhead, -⟩ := kind_eq_expression_iff.mp h
  rw [kind_eq_expression_iff]
  refine ⟨fun helse => ?_, ?_, getLast?_append_cons_ne (by decide) hslash t⟩
  · have hbar : '|' ∈ Text.trim (t ++ '|' :: step) := Text.mem_trim (by decide) (by simp)
    rw [helse] at hbar
    exact absurd hbar (by decide)
  · rw [Text.head?_trim, Text.trimStart_append_cons (by decide), List.head?_append,
      ← Text.head?_trim]
    cases hfirst : (Text.trim t).head? with
    | none => simp
    | some c => simpa [hfirst] using hhead

end Tag

/-! ## Expressions of values -/

structure IsValueExpression (expression : Text) : Prop where
  standalone : (⟨expression⟩ : Tag).Standalone
  isExpression : (⟨expression⟩ : Tag).kind = .expression expression false
  plain : isConditional expression = false
  noSegment : Backtick.mark ∉ expression

instance (expression : Text) : Decidable (IsValueExpression expression) :=
  decidable_of_iff
    ((⟨expression⟩ : Tag).Standalone ∧
      (⟨expression⟩ : Tag).kind = .expression expression false ∧
      isConditional expression = false ∧ Backtick.mark ∉ expression)
    ⟨fun h => ⟨h.1, h.2.1, h.2.2.1, h.2.2.2⟩,
      fun h => ⟨h.standalone, h.isExpression, h.plain, h.noSegment⟩⟩

theorem IsValueExpression.append_step {expression step : Text} (h : IsValueExpression expression)
    (hbrace : '}' ∉ step) (hmark : Backtick.mark ∉ step) (hslash : step.getLast? ≠ some '/') :
    IsValueExpression (expression ++ '|' :: step) := by
  refine ⟨h.standalone.append_step hbrace, Tag.kind_append_step h.isExpression hslash, ?_, ?_⟩
  · rw [isConditional_append_bar, h.plain]
  · rw [List.mem_append, List.mem_cons, not_or, not_or]
    exact ⟨h.noSegment, by decide, hmark⟩

namespace Directive

theorem read_append_step {expression step : Text} (hplain : isConditional expression = false)
    (hbar : '|' ∉ step) (delimiter : Text) (selfClosing : Bool) :
    read delimiter (expression ++ '|' :: step) selfClosing =
      { read delimiter expression selfClosing with
        chain := (read delimiter expression selfClosing).chain ++
          (Step.read? delimiter (Text.replace escapedSign ['>'] step)).toList } := by
  have hreplaced : ∀ body, isConditional (Text.replace escapedSign ['>'] body) =
      isConditional body := isConditional_replace_escapedSign
  have hstep : '|' ∉ Text.replace escapedSign ['>'] step := by
    intro hmem
    rcases Text.mem_of_mem_replace hmem with hsign | hmem
    · exact absurd hsign (by decide)
    · exact hbar hmem
  obtain ⟨path, steps, hfields⟩ := List.exists_cons_of_ne_nil
    (Text.fields_ne_nil (· == '|') (Text.replace escapedSign ['>'] expression))
  have hmore : Text.fields (· == '|')
      (Text.replace escapedSign ['>'] (expression ++ '|' :: step)) =
        (path :: steps) ++ [Text.replace escapedSign ['>'] step] := by
    rw [escapedSign, Text.replace_append_cons ['>'] (by decide),
      Text.fields_append_cons (by decide), ← escapedSign, hfields, Text.fields_of_not_mem hstep]
  simp only [read, hreplaced, isConditional_append_bar, hplain, Bool.false_eq_true, if_false,
    hmore, hfields]
  cases hread : Step.read? delimiter (Text.replace escapedSign ['>'] step) <;> simp [hread]

end Directive

/-! ## The step that captures -/

structure IsCaptureName (name : Text) : Prop extends IsValueExpression name where
  trimmed : Text.trim name = name
  lacks : Text.Lacks ['|', '>', '{', '}'] name
  noSign : ¬ Directive.escapedSign <:+: name

instance (name : Text) : Decidable (IsCaptureName name) :=
  decidable_of_iff
    (IsValueExpression name ∧ Text.trim name = name ∧ Text.Lacks ['|', '>', '{', '}'] name ∧
      ¬ Directive.escapedSign <:+: name)
    ⟨fun h => ⟨h.1, h.2.1, h.2.2.1, h.2.2.2⟩,
      fun h => ⟨h.toIsValueExpression, h.trimmed, h.lacks, h.noSign⟩⟩

def captureText (name : Text) : Text := Chain.captureStep.toList ++ '>' :: name

def Step.capture (name : Text) : Step := ⟨Chain.captureStep, [String.ofList name]⟩

namespace IsCaptureName

variable {name : Text} (h : IsCaptureName name)

include h

theorem ne_nil : name ≠ [] := (Tag.standalone_iff.mp h.standalone).1

theorem replace_eq_self : Text.replace Directive.escapedSign ['>'] name = name :=
  Text.replace_of_cut?_none (Text.cut?_eq_none_iff.mpr h.noSign) _

theorem read?_captureText :
    Step.read? ['>'] (Text.replace Directive.escapedSign ['>'] (captureText name)) =
      some (.capture name) := by
  have hreplace : Text.replace Directive.escapedSign ['>'] (captureText name) =
      Text.join ['>'] [Chain.captureStep.toList, name] := by
    have hset : Text.replace Directive.escapedSign ['>'] Chain.captureStep.toList =
        Chain.captureStep.toList := Text.replace_of_cut?_none (by decide) _
    have hname := h.replace_eq_self
    rw [Directive.escapedSign] at hset hname
    rw [captureText, Directive.escapedSign, Text.replace_append_cons ['>'] (by decide), hset, hname]
    simp [Text.join]
  have hsplit : Text.split ['>'] (Text.join ['>'] [Chain.captureStep.toList, name]) =
      [Chain.captureStep.toList, name] := by
    apply Text.split_join (by simp)
    simpa [Chain.captureStep] using h.lacks '>' (by decide)
  rw [hreplace, Step.read?, hsplit]
  rfl

theorem read_eq : Directive.read ['>'] name false = ⟨false, String.ofList name, [], false⟩ := by
  have hfields := Text.fields_of_not_mem (h.lacks '|' (by decide))
  simp only [Directive.read, h.replace_eq_self, h.plain, Bool.false_eq_true, if_false, hfields]
  simp [h.trimmed]

theorem append_capture {expression : Text} (hexpression : IsValueExpression expression) :
    IsValueExpression (expression ++ '|' :: captureText name) ∧
      Directive.read ['>'] (expression ++ '|' :: captureText name) false =
        { Directive.read ['>'] expression false with
          chain := (Directive.read ['>'] expression false).chain ++ [.capture name] } := by
  obtain ⟨-, -, hslash⟩ := Tag.kind_eq_expression_iff.mp h.isExpression
  have htext : captureText name = "set>".toList ++ name := rfl
  have hmem : ∀ c, c ∉ "set>".toList → c ∉ name → c ∉ captureText name := by
    intro c hset hname
    rw [htext, List.mem_append, not_or]
    exact ⟨hset, hname⟩
  constructor
  · apply hexpression.append_step (hmem _ (by decide) (h.lacks _ (by decide)))
      (hmem _ (by decide) h.noSegment)
    rwa [htext, List.getLast?_append_of_ne_nil _ h.ne_nil]
  · rw [Directive.read_append_step hexpression.plain
      (hmem _ (by decide) (h.lacks _ (by decide))), h.read?_captureText]
    rfl

end IsCaptureName

end BraceTemplate
