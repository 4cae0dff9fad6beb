import BraceTemplate.Proofs.Text.Trim
import BraceTemplate.Template.Backtick
import BraceTemplate.Template.Directive

/-!
# Expressions as they are scanned and as they are read

Scanning decides by the raw expression of a tag whether it is a condition;
reading decides it again, after segments and escaped signs are replaced.  Both
agree where there are no segments.
-/

namespace BraceTemplate

/-! ## Conditions -/

theorem isConditional_iff {body : Text} :
    isConditional body = true ↔
      ∃ c rest, body.trimStart = 'i' :: 'f' :: c :: rest ∧ Text.isBlank c = true := by
  unfold isConditional
  constructor
  · intro h
    split at h
    · rename_i c rest hstart
      exact ⟨c, rest, hstart, h⟩
    · simp at h
  · rintro ⟨c, rest, hstart, hblank⟩
    rw [hstart]
    exact hblank

theorem isConditional_append_cons {c : Char} (hblank : Text.isBlank c = false)
    (hi : c ≠ 'i') (hf : c ≠ 'f') (before after : Text) :
    isConditional (before ++ c :: after) = true ↔
      ∃ d rest, before.trimStart = 'i' :: 'f' :: d :: rest ∧ Text.isBlank d = true := by
  rw [isConditional_iff, Text.trimStart_append_cons hblank]
  constructor
  · rintro ⟨d, rest, hstart, hd⟩
    rcases hbefore : before.trimStart with _ | ⟨first, _ | ⟨second, _ | ⟨third, tail⟩⟩⟩
    · simp_all
    · simp_all
    · simp_all
    · simp only [hbefore, List.cons_append, List.cons.injEq] at hstart
      obtain ⟨rfl, rfl, rfl, -⟩ := hstart
      exact ⟨_, _, rfl, hd⟩
  · rintro ⟨d, rest, hstart, hd⟩
    exact ⟨d, rest ++ c :: after, by rw [hstart]; rfl, hd⟩

theorem isConditional_append_bar (before after : Text) :
    isConditional (before ++ '|' :: after) = isConditional before := by
  rw [Bool.eq_iff_iff, isConditional_append_cons (by decide) (by decide) (by decide),
    isConditional_iff]

theorem isConditional_replace_escapedSign (body : Text) :
    isConditional (Text.replace Directive.escapedSign ['>'] body) = isConditional body := by
  unfold Directive.escapedSign
  cases hcut : Text.cut? ['&', 'g', 't', ';'] body with
  | none => rw [Text.replace_of_cut?_none hcut]
  | some parts =>
      obtain ⟨before, after⟩ := parts
      rw [Text.replace_of_cut?_some hcut, Text.eq_append_of_cut? hcut, Bool.eq_iff_iff,
        List.append_assoc, List.append_assoc, List.cons_append, List.cons_append,
        isConditional_append_cons (by decide) (by decide) (by decide),
        isConditional_append_cons (by decide) (by decide) (by decide)]

@[simp] theorem Directive.conditional_read (delimiter body : Text) (selfClosing : Bool) :
    (Directive.read delimiter body selfClosing).conditional = isConditional body :=
  isConditional_replace_escapedSign body

theorem Tag.kind_eq_expression_iff {t : Text} :
    (⟨t⟩ : Tag).kind = .expression t false ↔
      t.trim ≠ ['e', 'l', 's', 'e'] ∧ t.trim.head? ≠ some '/' ∧ t.getLast? ≠ some '/' := by
  by_cases helse : t.trim = ['e', 'l', 's', 'e']
  · simp [kind, helse]
  · rw [kind]
    simp only [helse, if_false, ne_eq, not_false_eq_true, true_and]
    split
    · rename_i name hslash
      simp [hslash]
    · rename_i hslash
      have hhead : t.trim.head? ≠ some '/' := by
        intro hhead
        obtain ⟨name, hname⟩ := List.head?_eq_some_iff.mp hhead
        exact hslash name hname
      by_cases hlast : t.getLast? = some '/' <;> simp [hlast, hhead]

/-! ## Tokens and paths -/

theorem Directive.path_read {body : Text} (hplain : isConditional body = false)
    (delimiter : Text) (selfClosing : Bool) :
    (Directive.read delimiter body selfClosing).path =
      String.ofList (Text.replace escapedSign ['>'] (blockToken body)) := by
  have hreplaced := (isConditional_replace_escapedSign body).trans hplain
  have htrim (t : Text) : Text.trim (Text.replace escapedSign ['>'] t) =
      Text.replace escapedSign ['>'] (Text.trim t) :=
    Text.trim_replace (by simp [Text.isBlank]) (by decide) t
  have hfield (t : Text) : (Text.fields (· == '|') (Text.replace escapedSign ['>'] t)).headD [] =
      Text.replace escapedSign ['>'] ((Text.fields (· == '|') t).headD []) :=
    Text.headD_fields_replace (by decide) (by decide) t
  simp only [Directive.read, hreplaced, blockToken, hplain, Bool.false_eq_true, if_false]
  rw [hfield, htrim]

theorem blockToken_of_path_read {delimiter body : Text} {selfClosing : Bool}
    (hplain : isConditional body = false)
    (hpath : (Directive.read delimiter body selfClosing).path = String.ofList body) :
    blockToken body = body := by
  rw [Directive.path_read hplain, String.ofList_inj, Directive.escapedSign] at hpath
  cases hcut : Text.cut? Directive.escapedSign (blockToken body) with
  | none => rwa [Text.replace_of_cut?_none hcut] at hpath
  | some parts =>
      -- an escaped sign in the token makes the path shorter than the expression
      have htoken : (blockToken body).length ≤ body.length := by
        simp only [blockToken, hplain, Bool.false_eq_true, if_false]
        exact (Text.length_trim_le _).trans (Text.length_headD_fields_le _ body)
      have hafter : (Text.replace Directive.escapedSign ['>'] parts.2).length ≤ parts.2.length :=
        Text.length_replace_le (by decide) parts.2
      have hbefore := congrArg List.length (Text.eq_append_of_cut? hcut)
      have hreplaced := congrArg List.length (Text.replace_of_cut?_some hcut ['>'])
      rw [hpath] at hreplaced
      simp only [Directive.escapedSign, List.length_append, List.length_cons, List.length_nil]
        at *
      omega

/-! ## Expressions without segments -/

namespace Backtick

theorem nextFrom_of_not_mem {t : Text} (h : mark ∉ t) (seen : Text) :
    nextFrom seen t = none := by
  induction t generalizing seen with
  | nil => rfl
  | cons c rest ih =>
      rw [List.mem_cons, not_or] at h
      have hc : (c == mark) = false := by simpa using Ne.symm h.1
      rw [nextFrom, hc]
      exact ih h.2 (c :: seen)

theorem expand_of_not_mem {m : Type → Type} [Monad m] [LawfulMonad m] {t : Text}
    (h : mark ∉ t) (evaluate : Text → m String) : expand evaluate t = pure t := by
  have hsegments : segments t = (t, []) := by
    rw [segments]
    split
    · rfl
    · rename_i hnext
      simp [nextFrom_of_not_mem h] at hnext
  simp [expand, hsegments]

end Backtick

end BraceTemplate
