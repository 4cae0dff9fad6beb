import BraceTemplate.Text.Blank

/-!
# The order of bytes

Texts are ordered by the code points of their characters.  UTF-8 keeps this
order: of two characters the lesser one has the lesser bytes, and the bytes of
no character begin those of another.
-/

namespace BraceTemplate.Text

def bytes (s : String) : List UInt8 := s.toUTF8.data.toList

theorem bytes_eq_flatMap (s : String) : bytes s = s.toList.flatMap String.utf8EncodeChar := by
  rw [bytes, String.toUTF8_eq_toByteArray, ← String.utf8Encode_toList, List.utf8Encode,
    List.data_toByteArray]

theorem compare_ofNat {a b : Nat} (ha : a < 256) (hb : b < 256) :
    compare (UInt8.ofNat a) (UInt8.ofNat b) = compare a b := by
  have hlt : UInt8.ofNat a < UInt8.ofNat b ↔ a < b := by
    rw [UInt8.lt_iff_toNat_lt, UInt8.toNat_ofNat', UInt8.toNat_ofNat']
    omega
  have heq : UInt8.ofNat a = UInt8.ofNat b ↔ a = b := by
    rw [← UInt8.toNat_inj, UInt8.toNat_ofNat', UInt8.toNat_ofNat']
    omega
  simp [compare, compareOfLessAndEq, hlt, heq]

theorem compare_utf8EncodeChar {c d : Char} (h : c < d) (t u : List UInt8) :
    compare (String.utf8EncodeChar c ++ t) (String.utf8EncodeChar d ++ u) = .lt := by
  have hval : c.val.toNat < d.val.toNat := h
  have hvalid : d.val.toNat < 0x110000 := by rcases d.valid with h | h <;> omega
  have hsecond : ∀ k, k / 4096 = k / 64 / 64 := fun k => by omega
  have hthird : ∀ k, k / 262144 = k / 64 / 64 / 64 := fun k => by omega
  simp only [String.utf8EncodeChar, hsecond, hthird]
  generalize c.val.toNat = m at hval
  generalize d.val.toNat = n at hval hvalid
  -- one case for each two lengths; the shorter sequence starts with the lesser byte
  repeat' split
  all_goals
    simp (disch := omega) only [List.cons_append, List.nil_append, List.compare_cons_cons,
      compare_ofNat, Ordering.then_eq_lt, Nat.compare_eq_lt, Nat.compare_eq_eq]
    omega

theorem compare_append_left (p t u : List UInt8) : compare (p ++ t) (p ++ u) = compare t u := by
  induction p with
  | nil => rfl
  | cons byte p ih => simp [ih]

theorem compare_flatMap_of_lt {t u : Text} (h : List.Lex (· < ·) t u) :
    compare (t.flatMap String.utf8EncodeChar) (u.flatMap String.utf8EncodeChar) = .lt := by
  induction h with
  | @nil d u =>
      have hne : String.utf8EncodeChar d ≠ [] := String.utf8EncodeChar_ne_nil
      obtain ⟨byte, more, hbytes⟩ := List.exists_cons_of_ne_nil hne
      simp [hbytes]
  | rel hlt => exact compare_utf8EncodeChar hlt _ _
  | cons _ ih => simpa [compare_append_left] using ih

theorem compare_eq_compare_bytes (s t : String) : compare s t = compare (bytes s) (bytes t) := by
  rw [bytes_eq_flatMap, bytes_eq_flatMap]
  have hlt : ∀ s t : String, compare s t = .lt →
      compare (s.toList.flatMap String.utf8EncodeChar) (t.toList.flatMap String.utf8EncodeChar) =
        .lt := by
    intro s t h
    have hless : s < t := compareOfLessAndEq_eq_lt.mp h
    exact compare_flatMap_of_lt hless
  cases h : compare s t with
  | lt => exact (hlt s t h).symm
  | eq =>
      rw [Std.LawfulEqOrd.eq_of_compare h]
      exact Std.ReflOrd.compare_self.symm
  | gt => exact (Std.OrientedCmp.gt_of_lt (hlt t s (Std.OrientedCmp.lt_of_gt h))).symm

end BraceTemplate.Text
