import BraceTemplate.Proofs.Text.ByteOrder
import BraceTemplate.Proofs.Text.Sign
import BraceTemplate.Text.Hexadecimal
import BraceTemplate.Text.Percent

/-!
# Laws of percent encoding

An encoded text holds the characters that an address may hold and triples of a
percent sign and two digits.  Its bytes can be read back, as the percent sign is
never written for itself.
-/

namespace BraceTemplate.Text

/-! ## Digits -/

def isUpperHexDigit (c : Char) : Bool := c.isDigit || ('A' ≤ c && c ≤ 'F')

theorem isUpperHexDigit_upperHexDigit : ∀ n < 16, isUpperHexDigit (upperHexDigit n) = true := by
  decide

theorem hexDigit?_upperHexDigit : ∀ n < 16, hexDigit? (upperHexDigit n) = some n := by
  decide

theorem ne_percent_of_isUpperHexDigit {c : Char} (h : isUpperHexDigit c = true) : '%' ≠ c := by
  rintro rfl
  exact absurd h (by decide)

/-! ## Encoded texts -/

def isKept (c : Char) : Bool := c.isAlphanum || addressMarks.contains c

inductive PercentEncoded : Text → Prop where
  | nil : PercentEncoded []
  | kept {c : Char} {t : Text} (h : isKept c = true) (rest : PercentEncoded t) :
      PercentEncoded (c :: t)
  | triple {high low : Char} {t : Text} (hhigh : isUpperHexDigit high = true)
      (hlow : isUpperHexDigit low = true) (rest : PercentEncoded t) :
      PercentEncoded ('%' :: high :: low :: t)

/-- Each percent sign has two digits behind it. -/
def WritesTriples (t : Text) : Prop :=
  BehindEach '%' (fun after => ∃ high low rest, after = high :: low :: rest ∧
    isUpperHexDigit high = true ∧ isUpperHexDigit low = true) t

theorem ne_percent_of_isKept {c : Char} (h : isKept c = true) : '%' ≠ c := by
  rintro rfl
  exact absurd h (by decide)

theorem PercentEncoded.writesTriples {t : Text} (h : PercentEncoded t) : WritesTriples t := by
  induction h with
  | nil => exact behindEach_nil
  | kept h rest ih =>
      exact behindEach_cons_iff.mpr ⟨fun hc => absurd hc.symm (ne_percent_of_isKept h), ih⟩
  | @triple high low t hhigh hlow rest ih =>
      have hdigits : '%' ∉ [high, low] := by
        simp [ne_percent_of_isUpperHexDigit hhigh, ne_percent_of_isUpperHexDigit hlow]
      exact behindEach_cons_iff.mpr
        ⟨fun _ => ⟨high, low, t, rfl, hhigh, hlow⟩, (behindEach_append_iff hdigits).mpr ih⟩

theorem percentEncodeByte_cases (byte : UInt8) :
    (isKept (Char.ofUInt8 byte) = true ∧ percentEncodeByte byte = [Char.ofUInt8 byte]) ∨
      percentEncodeByte byte =
        ['%', upperHexDigit (byte.toNat / 16), upperHexDigit (byte.toNat % 16)] := by
  simp only [percentEncodeByte]
  split
  · rename_i hkept
    exact .inl ⟨hkept, rfl⟩
  · exact .inr rfl

theorem percentEncoded_flatMap (bytes : List UInt8) :
    PercentEncoded (bytes.flatMap percentEncodeByte) := by
  induction bytes with
  | nil => exact .nil
  | cons byte bytes ih =>
      have hbyte := byte.toNat_lt
      rw [List.flatMap_cons]
      rcases percentEncodeByte_cases byte with ⟨hkept, hencoded⟩ | hencoded
      · rw [hencoded]
        exact .kept hkept ih
      · rw [hencoded]
        exact .triple (isUpperHexDigit_upperHexDigit _ (by omega))
          (isUpperHexDigit_upperHexDigit _ (by omega)) ih

/-! ## Reading -/

def byteAt? : Text → Option UInt8
  | '%' :: high :: low :: _ =>
      match hexDigit? high, hexDigit? low with
      | some x, some y => some (UInt8.ofNat (16 * x + y))
      | _, _ => none
  | _ => none

def percentDecode : Text → List UInt8
  | [] => []
  | c :: rest =>
      match byteAt? (c :: rest) with
      | some byte => byte :: percentDecode (rest.drop 2)
      | none => String.utf8EncodeChar c ++ percentDecode rest
termination_by t => t.length
decreasing_by
  · simp only [List.length_drop, List.length_cons]
    omega
  · simp

theorem byteAt?_triple (byte : UInt8) (rest : Text) :
    byteAt? ('%' :: upperHexDigit (byte.toNat / 16) :: upperHexDigit (byte.toNat % 16) :: rest) =
      some byte := by
  have hbyte := byte.toNat_lt
  have hvalue : 16 * (byte.toNat / 16) + byte.toNat % 16 = byte.toNat := Nat.div_add_mod _ _
  rw [byteAt?, hexDigit?_upperHexDigit _ (by omega), hexDigit?_upperHexDigit _ (by omega)]
  simp only [hvalue, UInt8.ofNat_toNat]

theorem byteAt?_cons_of_ne {c : Char} (hc : '%' ≠ c) (rest : Text) :
    byteAt? (c :: rest) = none := by
  unfold byteAt?
  split
  · rename_i heq
    exact absurd (List.cons.inj heq).1.symm hc
  · rfl

theorem lt_of_isKept {c : Char} (h : isKept c = true) : c.toNat < 128 := by
  have hbound : ∀ last : Char, c.val ≤ last.val → last.toNat < 128 → c.toNat < 128 :=
    fun last hle hlast => Nat.lt_of_le_of_lt (UInt32.le_iff_toNat_le.mp hle) hlast
  rw [isKept, Bool.or_eq_true, List.contains_iff_mem] at h
  rcases h with halphanum | hmark
  · rcases Bool.or_eq_true_iff.mp halphanum with halpha | hdigit
    · rcases Bool.or_eq_true_iff.mp halpha with hupper | hlower
      · exact hbound 'Z' (of_decide_eq_true hupper).2 (by decide)
      · exact hbound 'z' (of_decide_eq_true (Bool.and_eq_true_iff.mp hlower).2) (by decide)
    · exact hbound '9' (of_decide_eq_true (Bool.and_eq_true_iff.mp hdigit).2) (by decide)
  · have hmarks : (addressMarks.all fun mark => mark.toNat < 128) = true := by decide
    simpa using List.all_eq_true.mp hmarks c hmark

theorem toNat_ofUInt8 (byte : UInt8) : (Char.ofUInt8 byte).toNat = byte.toNat :=
  UInt8.toNat_toUInt32 byte

theorem utf8EncodeChar_ofUInt8 {byte : UInt8} (h : byte.toNat < 128) :
    String.utf8EncodeChar (Char.ofUInt8 byte) = [byte] := by
  have hval : (Char.ofUInt8 byte).val.toNat = byte.toNat := toNat_ofUInt8 byte
  have hshort : byte.toNat ≤ 0x7F := by omega
  simp only [String.utf8EncodeChar, hval]
  rw [if_pos hshort, UInt8.ofNat_toNat]

theorem percentDecode_byte_append (byte : UInt8) (t : Text) :
    percentDecode (percentEncodeByte byte ++ t) = byte :: percentDecode t := by
  rcases percentEncodeByte_cases byte with ⟨hkept, hencoded⟩ | hencoded
  · have hlt := lt_of_isKept hkept
    rw [toNat_ofUInt8] at hlt
    rw [hencoded, List.singleton_append, percentDecode,
      byteAt?_cons_of_ne (ne_percent_of_isKept hkept), utf8EncodeChar_ofUInt8 hlt]
    rfl
  · rw [hencoded]
    simp only [List.cons_append, List.nil_append]
    rw [percentDecode, byteAt?_triple]
    rfl

theorem percentDecode_flatMap (bytes : List UInt8) :
    percentDecode (bytes.flatMap percentEncodeByte) = bytes := by
  induction bytes with
  | nil => simp [percentDecode]
  | cons byte bytes ih => rw [List.flatMap_cons, percentDecode_byte_append, ih]

/-! ## Texts -/

theorem percentEncode_eq_flatMap (s : String) :
    percentEncode s.toList = (bytes s).flatMap percentEncodeByte := by
  rw [bytes_eq_flatMap, List.flatMap_assoc, percentEncode]

end BraceTemplate.Text
