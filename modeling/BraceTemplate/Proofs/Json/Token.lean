import BraceTemplate.Json.Reader
import BraceTemplate.Json.Writer
import Mathlib.Data.List.Forall2

/-!
# The tokens of written documents

What is written as JSON has the tokens of the document.  A constant or a number
ends where the text ends or where a sign follows that ends words; everything else
ends by itself.
-/

namespace BraceTemplate.Json

def tokensOf : Json → List Token
  | .null => [.scalar .null]
  | .bool b => [.scalar (.bool b)]
  | .integer n => [.scalar (.integer n)]
  | .float x => [.scalar (.float x)]
  | .string s => [.string s]
  | .array items => .openArray :: ([.comma].intercalate (items.map tokensOf) ++ [.closeArray])
  | .object members =>
      .openObject :: ([.comma].intercalate (members.map fun member =>
        .string member.1 :: .colon :: tokensOf member.2) ++ [.closeObject])
termination_by document => document
decreasing_by
  · have := List.sizeOf_lt_of_mem ‹_›
    simp only [Json.array.sizeOf_spec]
    omega
  · have := Dictionary.sizeOf_snd_lt ‹_›
    simp only [Json.object.sizeOf_spec]
    omega

/-! ## Texts with tokens -/

def ReadsWhole (t : Text) (tokens : List Token) : Prop :=
  ∀ seen, t.foldlM Lexer.step? ⟨.between, seen⟩ = some ⟨.between, tokens.reverse ++ seen⟩

/-- Behind whole tokens, the text is read as some tokens where it ends or a word would end. -/
structure ReadsAs (t : Text) (tokens : List Token) : Prop where
  atEnd : ∀ seen, (t.foldlM Lexer.step? ⟨.between, seen⟩).bind Lexer.finish? =
    some (tokens.reverse ++ seen).reverse
  before : ∀ seen c rest, Lexer.endsWord c = true →
    (t ++ c :: rest).foldlM Lexer.step? ⟨.between, seen⟩ =
      (c :: rest).foldlM Lexer.step? ⟨.between, tokens.reverse ++ seen⟩

namespace ReadsWhole

variable {t more : Text} {tokens next : List Token}

theorem append (h : ReadsWhole t tokens) (hnext : ReadsWhole more next) :
    ReadsWhole (t ++ more) (tokens ++ next) := by
  intro seen
  simp [List.foldlM_append, h seen, hnext _]

theorem readsAs (h : ReadsWhole t tokens) : ReadsAs t tokens where
  atEnd seen := by
    rw [h seen]
    rfl
  before seen c rest _ := by
    rw [List.foldlM_append, h seen]
    rfl

theorem punctuation {c : Char} {token : Token} (hspace : Token.isSpace c = false)
    (hquote : (c == '\x22') = false) (h : Token.ofPunctuation? c = some token) :
    ReadsWhole [c] [token] := by
  intro seen
  simp [Lexer.step?, Lexer.startToken, hspace, hquote, h, Lexer.push]

end ReadsWhole

theorem ReadsWhole.append_readsAs {t more : Text} {tokens next : List Token}
    (h : ReadsWhole t tokens) (hnext : ReadsAs more next) :
    ReadsAs (t ++ more) (tokens ++ next) where
  atEnd seen := by
    simp [List.foldlM_append, h seen, hnext.atEnd]
  before seen c rest hc := by
    rw [List.append_assoc, List.foldlM_append, h seen, List.reverse_append, List.append_assoc]
    exact hnext.before _ c rest hc

theorem ReadsAs.append {t rest : Text} {c : Char} {tokens next : List Token} (h : ReadsAs t tokens)
    (hc : Lexer.endsWord c = true) (hnext : ReadsWhole (c :: rest) next) :
    ReadsWhole (t ++ c :: rest) (tokens ++ next) := by
  intro seen
  rw [h.before seen c rest hc, hnext, List.reverse_append, List.append_assoc]

/-! ## Words -/

theorem foldlM_word {w : Text} (h : ∀ c ∈ w, Lexer.endsWord c = false) (seen : Text)
    (tokens : List Token) :
    w.foldlM Lexer.step? ⟨.word seen, tokens⟩ = some ⟨.word (w.reverse ++ seen), tokens⟩ := by
  induction w generalizing seen with
  | nil => rfl
  | cons c w ih =>
      obtain ⟨hc, hw⟩ := List.forall_mem_cons.mp h
      simp [Lexer.step?, hc, ih hw]

theorem readsAs_word {c : Char} {w : Text} {token : Token}
    (h : ∀ sign ∈ c :: w, Lexer.endsWord sign = false)
    (htoken : Token.ofWord? (c :: w) = some token) : ReadsAs (c :: w) [token] := by
  have hword : ∀ seen, (c :: w).foldlM Lexer.step? ⟨.between, seen⟩ =
      some ⟨.word (c :: w).reverse, seen⟩ := by
    intro seen
    obtain ⟨hc, hw⟩ := List.forall_mem_cons.mp h
    have hstart : Lexer.startToken seen c = ⟨.word [c], seen⟩ := by
      simp only [Lexer.endsWord, Bool.or_eq_false_iff, Option.isSome_eq_false_iff,
        Option.isNone_iff_eq_none] at hc
      simp [Lexer.startToken, hc]
    simp [Lexer.step?, hstart, foldlM_word hw]
  constructor
  · intro seen
    simp [hword seen, Lexer.finish?, htoken]
  · intro seen sign rest hsign
    rw [List.foldlM_append, hword seen]
    simp [Lexer.step?, hsign, htoken]

theorem readsAs_null : ReadsAs "null".toList [.scalar .null] := by
  have htext : "null".toList = ['n', 'u', 'l', 'l'] := by decide
  rw [htext]
  exact readsAs_word (by simp [Lexer.endsWord, Token.isSpace, Token.ofPunctuation?]) rfl

theorem readsAs_bool (b : Bool) :
    ReadsAs (if b then "true" else "false").toList [.scalar (.bool b)] := by
  have htrue : "true".toList = ['t', 'r', 'u', 'e'] := by decide
  have hfalse : "false".toList = ['f', 'a', 'l', 's', 'e'] := by decide
  cases b with
  | true =>
      rw [if_pos rfl, htrue]
      exact readsAs_word (by simp [Lexer.endsWord, Token.isSpace, Token.ofPunctuation?]) rfl
  | false =>
      rw [if_neg Bool.false_ne_true, hfalse]
      exact readsAs_word (by simp [Lexer.endsWord, Token.isSpace, Token.ofPunctuation?]) rfl

/-! ## Strings -/

theorem hexDigit?_digitChar : ∀ n < 16, Text.hexDigit? (Nat.digitChar n) = some n := by
  decide

theorem foldlM_unit {c : Char} (h : c.toNat < 0x20) (seen : Text) (tokens : List Token) :
    (['u', '0', '0', Nat.digitChar (c.toNat / 16), Nat.digitChar (c.toNat % 16)]).foldlM Lexer.step?
      ⟨.escape seen, tokens⟩ = some ⟨.string (c :: seen), tokens⟩ := by
  have hzero : Text.hexDigit? '0' = some 0 := rfl
  have hvalue : c.toNat / 16 * 16 + c.toNat % 16 = c.toNat := by omega
  have hunit : Lexer.finishUnit? tokens seen none c.toNat = some ⟨.string (c :: seen), tokens⟩ := by
    have hlow : ¬ 0xD800 ≤ c.toNat := by omega
    have hhigh : ¬ 0xDC00 ≤ c.toNat := by omega
    simp [Lexer.finishUnit?, hlow, hhigh, Char.ofNat_toNat]
  simp [Lexer.step?, hzero, hexDigit?_digitChar (c.toNat / 16) (by omega),
    hexDigit?_digitChar (c.toNat % 16) (by omega), hvalue, hunit]

theorem foldlM_escape (c : Char) (seen : Text) (tokens : List Token) :
    (escape c).foldlM Lexer.step? ⟨.string seen, tokens⟩ = some ⟨.string (c :: seen), tokens⟩ := by
  have hstart : Lexer.step? ⟨.string seen, tokens⟩ '\\' = some ⟨.escape seen, tokens⟩ := rfl
  unfold escape
  split_ifs with hquoted hline hreturn htab hback hfeed hcontrol
  · obtain rfl | rfl : c = '\x22' ∨ c = '\\' := by simpa using hquoted
    · rfl
    · rfl
  · obtain rfl : c = '\n' := by simpa using hline
    rfl
  · obtain rfl : c = '\r' := by simpa using hreturn
    rfl
  · obtain rfl : c = '\t' := by simpa using htab
    rfl
  · obtain rfl : c = '\x08' := by simpa using hback
    rfl
  · obtain rfl : c = '\x0c' := by simpa using hfeed
    rfl
  · rw [List.foldlM_cons, hstart]
    exact foldlM_unit hcontrol seen tokens
  · simp only [Bool.or_eq_true, not_or, Bool.not_eq_true] at hquoted
    simp [Lexer.step?, hquoted, hcontrol]

theorem foldlM_escapes (t : Text) (seen : Text) (tokens : List Token) :
    (t.flatMap escape).foldlM Lexer.step? ⟨.string seen, tokens⟩ =
      some ⟨.string (t.reverse ++ seen), tokens⟩ := by
  induction t generalizing seen with
  | nil => rfl
  | cons c t ih => simp [List.foldlM_append, foldlM_escape, ih]

theorem readsWhole_writeString (s : String) : ReadsWhole (writeString s).toList [.string s] := by
  intro seen
  have hstart : Lexer.startToken seen '\x22' = ⟨.string [], seen⟩ := rfl
  simp [writeString, List.foldlM_append, Lexer.step?, hstart, foldlM_escapes, Lexer.push]

/-! ## Documents -/

theorem readsWhole_intercalate {texts : List Text} {tokens : List (List Token)} {close : Char}
    {closing : Token} (h : List.Forall₂ ReadsAs texts tokens) (hclose : Lexer.endsWord close = true)
    (hclosing : ReadsWhole [close] [closing]) :
    ReadsWhole ([','].intercalate texts ++ [close])
      ([.comma].intercalate tokens ++ [closing]) := by
  have hcomma : ReadsWhole [','] [.comma] := .punctuation rfl rfl rfl
  induction h with
  | nil => exact hclosing
  | @cons t first texts tokens hfirst hrest ih =>
      cases hrest with
      | nil => simpa using hfirst.append hclose hclosing
      | cons hnext hrest =>
          rw [List.intercalate_cons_cons, List.intercalate_cons_cons, List.append_assoc,
            List.append_assoc, List.append_assoc, List.append_assoc]
          exact hfirst.append rfl (hcomma.append ih)

end BraceTemplate.Json
