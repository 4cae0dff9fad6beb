import BraceTemplate.Proofs.Number.Decimal
import BraceTemplate.Proofs.Number.Positional
import BraceTemplate.Toml.Reader
import BraceTemplate.Toml.Writer

/-!
# Bare values

Booleans, integers and finite numbers are read back from the words that they are
written with.
-/

namespace BraceTemplate.Toml

open Text (isDigits digitsValue isDigits_iff)

/-! ## Digits -/

theorem ungroup?_of_isDigits {t : Text} (h : isDigits t = true) :
    ungroup? Char.isDigit t = some t := by
  obtain ⟨hne, hdigits⟩ := isDigits_iff.mp h
  have hbar : '_' ∉ t := fun hmem => by simpa using hdigits _ hmem
  have hall : t.all Char.isDigit = true := List.all_eq_true.mpr hdigits
  unfold ungroup?
  rw [Text.fields_of_not_mem hbar]
  simp [hall, hne]

theorem wholeDigits?_of_isDigits {t : Text} (h : isDigits t = true)
    (hzero : (t.head? == some '0' && decide (1 < t.length)) = false) :
    wholeDigits? t = some t := by
  unfold wholeDigits?
  rw [ungroup?_of_isDigits h, Option.bind_eq_bind, Option.bind_some, Bool.and_comm, hzero]
  rfl

theorem readFloat?_of_pointed {t whole fraction : Text} {value : ℚ}
    (h : Decimal.Pointed t whole fraction value) (negative : Bool) :
    readFloat? negative t =
      let x := floatOfDecimal (digitsValue (whole ++ fraction)) (-(fraction.length : Int))
      if x.isInf then none else some (.float (if negative then -x else x)) := by
  obtain ⟨rfl, hwhole, hfraction, hzero, -⟩ := h
  have hdigits : ∀ c ∈ whole ++ '.' :: fraction, c.isDigit = true ∨ c = '.' := by
    intro c hc
    rcases List.mem_append.mp hc with hmem | hmem
    · exact .inl ((isDigits_iff.mp hwhole).2 c hmem)
    · rcases List.mem_cons.mp hmem with rfl | hmem
      · exact .inr rfl
      · exact .inl ((isDigits_iff.mp hfraction).2 c hmem)
  have hmantissa : (whole ++ '.' :: fraction).takeWhile (fun c => !(c == 'e' || c == 'E')) =
      whole ++ '.' :: fraction := by
    rw [List.takeWhile_eq_self_iff]
    intro c hc
    rcases hdigits c hc with hdigit | rfl
    · have hsmall : c ≠ 'e' := by rintro rfl; cases hdigit
      have hlarge : c ≠ 'E' := by rintro rfl; cases hdigit
      simp [hsmall, hlarge]
    · rfl
  have hpoint : (whole ++ '.' :: fraction).takeWhile (· != '.') = whole := by
    rw [List.takeWhile_append_of_pos, List.takeWhile_cons_of_neg (by decide), List.append_nil]
    intro c hc
    have hne : c ≠ '.' := by
      rintro rfl
      cases (isDigits_iff.mp hwhole).2 _ hc
    simpa using hne
  unfold readFloat?
  simp only [hmantissa, hpoint, List.drop_left, List.drop_length,
    wholeDigits?_of_isDigits hwhole hzero,
    ungroup?_of_isDigits hfraction, Option.bind_eq_bind, Option.bind_some, zero_sub]

/-! ## Words -/

theorem ofList_beq_of_head {c : Char} {rest : Text} {word : String}
    (h : word.toList.head? ≠ some c) : (String.ofList (c :: rest) == word) = false := by
  rw [beq_eq_false_iff_ne]
  rintro rfl
  rw [String.toList_ofList] at h
  exact h rfl

theorem ofList_beq_of_isDigit {c : Char} (hc : c.isDigit = true) (rest : Text) {word : String}
    (h : word.toList.head?.any Char.isDigit = false) :
    (String.ofList (c :: rest) == word) = false := by
  refine ofList_beq_of_head fun hhead => ?_
  rw [hhead, Option.any_some, hc] at h
  cases h

theorem ne_of_isDigit {c letter : Char} (hc : c.isDigit = true) (hletter : letter.isDigit = false) :
    c ≠ letter := by
  rintro rfl
  rw [hc] at hletter
  cases hletter

theorem readScalar?_of_digit {c : Char} {rest : Text} (hc : c.isDigit = true)
    (hradix : ∀ d ∈ rest.head?, d ≠ 'x' ∧ d ≠ 'o' ∧ d ≠ 'b') :
    readScalar? (c :: rest) = readDecimal? false (c :: rest) := by
  have hsign : Text.cutSign (c :: rest) = (false, c :: rest) := by
    unfold Text.cutSign
    split <;> simp_all
  have hword : ∀ word : String, word.toList.head?.any Char.isDigit = false →
      (String.ofList (c :: rest) == word) = false := fun _ => ofList_beq_of_isDigit hc rest
  unfold readScalar?
  simp only [hsign, hword "inf" (by decide), hword "nan" (by decide), hword "true" (by decide),
    hword "false" (by decide), Bool.or_self, Bool.false_eq_true, if_false]
  split <;> rename_i heq <;> simp_all

theorem readScalar?_minus {c : Char} {rest : Text} (hc : c.isDigit = true) :
    readScalar? ('-' :: c :: rest) = readDecimal? true (c :: rest) := by
  have hinf : (String.ofList (c :: rest) == "inf") = false :=
    ofList_beq_of_isDigit hc rest (by decide)
  have hnan : (String.ofList (c :: rest) == "nan") = false :=
    ofList_beq_of_isDigit hc rest (by decide)
  have htrue : (String.ofList ('-' :: c :: rest) == "true") = false :=
    ofList_beq_of_head (by decide)
  have hfalse : (String.ofList ('-' :: c :: rest) == "false") = false :=
    ofList_beq_of_head (by decide)
  unfold readScalar?
  simp only [Text.cutSign, hinf, hnan, htrue, hfalse, Bool.or_self, Bool.false_eq_true, if_false]
  rfl

theorem readScalar?_signed {t : Text} {c : Char} {rest : Text} (ht : t = c :: rest)
    (hc : c.isDigit = true) (hradix : ∀ d ∈ rest.head?, d ≠ 'x' ∧ d ≠ 'o' ∧ d ≠ 'b')
    (negative : Bool) :
    readScalar? (if negative then '-' :: t else t) = readDecimal? negative t := by
  subst ht
  cases negative with
  | false => exact readScalar?_of_digit hc hradix
  | true => exact readScalar?_minus hc

theorem readScalar?_bool (b : Bool) :
    readScalar? (if b then "true" else "false").toList = some (.bool b) := by
  cases b <;> rfl

theorem any_decimalMark_of_isDigits {t : Text} (h : isDigits t = true) :
    (t.any fun c => c == '.' || c == 'e' || c == 'E') = false := by
  rw [List.any_eq_false]
  intro c hc
  have hdigit := (isDigits_iff.mp h).2 c hc
  simp [ne_of_isDigit hdigit (rfl : '.'.isDigit = false),
    ne_of_isDigit hdigit (rfl : 'e'.isDigit = false),
    ne_of_isDigit hdigit (rfl : 'E'.isDigit = false)]

theorem readDecimal?_of_isDigits {t : Text} (h : isDigits t = true)
    (hzero : (t.head? == some '0' && decide (1 < t.length)) = false) (negative : Bool) :
    readDecimal? negative t =
      ofInteger? (if negative then -(digitsValue t : Int) else digitsValue t) := by
  rw [readDecimal?, any_decimalMark_of_isDigits h, wholeDigits?_of_isDigits h hzero]
  rfl

theorem readScalar?_of_isDigits {t : Text} (h : isDigits t = true)
    (hzero : (t.head? == some '0' && decide (1 < t.length)) = false) (negative : Bool) :
    readScalar? (if negative then '-' :: t else t) =
      ofInteger? (if negative then -(digitsValue t : Int) else digitsValue t) := by
  obtain ⟨c, rest, ht, hc⟩ := Text.exists_digit_cons h
  rw [readScalar?_signed ht hc ?_ negative, readDecimal?_of_isDigits h hzero]
  intro d hd
  have hdigit : d.isDigit = true :=
    (isDigits_iff.mp h).2 d (ht ▸ List.mem_cons_of_mem c (List.mem_of_head? hd))
  exact ⟨ne_of_isDigit hdigit rfl, ne_of_isDigit hdigit rfl, ne_of_isDigit hdigit rfl⟩

theorem ofInteger?_of_bounds {n : Int} (hlow : -2 ^ 63 ≤ n) (hhigh : n < 2 ^ 64) :
    ofInteger? n = some (.integer n) := by
  have hbounds : (decide (-(Int.pow 2 63) ≤ n) && decide (n < Int.pow 2 64)) = true := by
    simpa using ⟨hlow, hhigh⟩
  rw [ofInteger?, hbounds]
  rfl

theorem readScalar?_integer {n : Int} (hlow : -2 ^ 63 ≤ n) (hhigh : n < 2 ^ 63) :
    readScalar? (toString n).toList = some (.integer n) := by
  rcases Text.toString_cases n with ⟨k, rfl, htext⟩ | ⟨k, -, rfl, htext⟩
  · have hread := readScalar?_of_isDigits (Text.isDigits_repr k) (Text.needsNoZero_repr k) false
    rw [Text.digitsValue_repr] at hread
    rw [htext]
    exact hread.trans (ofInteger?_of_bounds hlow (by omega))
  · have hread := readScalar?_of_isDigits (Text.isDigits_repr k) (Text.needsNoZero_repr k) true
    rw [Text.digitsValue_repr] at hread
    rw [htext]
    exact hread.trans (ofInteger?_of_bounds hlow (by omega))

theorem exists_write_eq {x : Float} (h : (Binary64.ofFloat x).isFinite = true) :
    ∃ negative m e whole fraction t, Binary64.ofFloat x = .finite negative m e ∧
      Decimal.Pointed t whole fraction ((Decimal.shortest numberStyle.tie m e).digits *
        10 ^ (Decimal.shortest numberStyle.tie m e).exponent) ∧
      (numberStyle.write x).toList = if negative then '-' :: t else t := by
  cases hx : Binary64.ofFloat x with
  | nan => simp [hx, Binary64.isFinite] at h
  | infinite negative => simp [hx, Binary64.isFinite] at h
  | finite negative m e =>
      obtain ⟨whole, fraction, hpointed⟩ := Decimal.exists_positional
        (d := Decimal.shortest numberStyle.tie m e) (Binary64.exponent_shortest_of_digits hx)
      refine ⟨negative, m, e, whole, fraction, _, rfl, hpointed, ?_⟩
      rw [NumberStyle.write, hx]
      by_cases hpoint : 0 ≤ (Decimal.shortest .up m e).exponent <;> cases negative <;>
        simp [numberStyle, hpoint]

theorem readScalar?_float {x : Float} (h : (Binary64.ofFloat x).isFinite = true) :
    readScalar? (numberStyle.write x).toList = some (.float x) := by
  obtain ⟨negative, m, e, whole, fraction, t, hx, hpointed, htext⟩ := exists_write_eq h
  obtain ⟨c, rest, hwhole, hc⟩ := Text.exists_digit_cons hpointed.isDigits_whole
  have ht : t = c :: (rest ++ '.' :: fraction) := by rw [hpointed.text, hwhole, List.cons_append]
  have hradix : ∀ d ∈ (rest ++ '.' :: fraction).head?, d ≠ 'x' ∧ d ≠ 'o' ∧ d ≠ 'b' := by
    intro d hd
    cases rest with
    | nil =>
        obtain rfl := Option.some.inj hd
        decide
    | cons next rest =>
        obtain rfl := Option.some.inj hd
        have hdigit : next.isDigit = true :=
          (isDigits_iff.mp hpointed.isDigits_whole).2 next (by simp [hwhole])
        exact ⟨ne_of_isDigit hdigit rfl, ne_of_isDigit hdigit rfl, ne_of_isDigit hdigit rfl⟩
  have hpoint : (t.any fun c => c == '.' || c == 'e' || c == 'E') = true := by
    rw [hpointed.text]
    simp
  obtain ⟨hfinite, hsigned⟩ := Binary64.signed_floatOfDecimal hx hpointed.value
  rw [htext, readScalar?_signed ht hc hradix, readDecimal?, hpoint, if_pos rfl,
    readFloat?_of_pointed hpointed]
  simp only [hfinite, hsigned, Bool.false_eq_true, if_false]

end BraceTemplate.Toml
