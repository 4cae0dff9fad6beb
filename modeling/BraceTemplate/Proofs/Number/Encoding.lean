import BraceTemplate.Number.Reader
import BraceTemplate.Number.Binary64
import BraceTemplate.Proofs.Number.Rounding

/-!
# Numbers and their bits

A number is packed into a sign, an exponent and the digits of its mantissa.  The
exact form that is read off the bits is what was packed, if the exponent is not
too large; otherwise it is an infinity.
-/

namespace BraceTemplate

open Float.Model (UnpackedFloat Format)
open Float.Model.UnpackedFloat (ExtendedMantissa Sign pack packComponents unpack unpackExponent
  unpackMantissa unpackSign unpackMantissa_packComponents unpackExponent_packComponents
  unpackSign_packComponents)

namespace Binary64

def ofUnpacked : UnpackedFloat → Binary64
  | .notANumber => .nan
  | .infinity s => .infinite (s == .negative)
  | .zero s => .finite (s == .negative) 0 (-1074)
  | .finite s mantissa exponent _ => .finite (s == .negative) mantissa exponent

/-! ## The parts of the bits -/

theorem toNat_unpackMantissa (bits : BitVec 64) :
    (@unpackMantissa Format.binary64 bits).toNat = bits.toNat % 2 ^ 52 := by
  simp [unpackMantissa]

theorem toNat_unpackExponent (bits : BitVec 64) :
    (@unpackExponent Format.binary64 bits).toNat = bits.toNat / 2 ^ 52 % 2 ^ 11 := by
  simp [unpackExponent, Nat.shiftRight_eq_div_pow]

theorem toNat_unpackSign (bits : BitVec 64) :
    (@unpackSign Format.binary64 bits).toNat = bits.toNat / 2 ^ 63 := by
  have := bits.isLt
  simp [unpackSign, Nat.shiftRight_eq_div_pow]
  omega

theorem toNat_one_append (mantissa : BitVec 52) :
    (1#1 ++ mantissa).toNat = mantissa.toNat + 2 ^ 52 := by
  rw [BitVec.toNat_append, ← Nat.shiftLeft_add_eq_or_of_lt mantissa.isLt]
  simp [Nat.shiftLeft_eq]
  omega

theorem ofBitVec_beq_negative (bit : BitVec 1) :
    (Sign.ofBitVec bit == .negative) = (bit.toNat == 1) := by
  rcases BitVec.eq_zero_or_eq_one bit with rfl | rfl <;> rfl

theorem ofFloat_eq_ofUnpacked (x : Float) : ofFloat x = ofUnpacked x.toModel.unpack := by
  let bits : BitVec 64 := x.toModel.toBits.toBitVec
  have hall : @unpackExponent Format.binary64 bits = -1#11 ↔
      bits.toNat / 2 ^ 52 % 2 ^ 11 = 2 ^ 11 - 1 := by
    rw [← BitVec.toNat_inj, toNat_unpackExponent]
    rfl
  have hnone : @unpackExponent Format.binary64 bits = 0#11 ↔
      bits.toNat / 2 ^ 52 % 2 ^ 11 = 0 := by
    rw [← BitVec.toNat_inj, toNat_unpackExponent]
    rfl
  have hzero : @unpackMantissa Format.binary64 bits = 0#52 ↔
      bits.toNat % 2 ^ 52 = 0 := by
    rw [← BitVec.toNat_inj, toNat_unpackMantissa]
    rfl
  have hsign : (Sign.ofBitVec (@unpackSign Format.binary64 bits) == .negative) =
      (bits.toNat / 2 ^ 63 == 1) := by
    rw [ofBitVec_beq_negative, toNat_unpackSign]
  have hbits : x.toBits.toNat = bits.toNat := rfl
  change ofFloat x = ofUnpacked (unpack Format.binary64 bits)
  unfold ofFloat unpack
  simp only [hbits, Nat.pow_eq, beq_iff_eq, hall, hnone, hzero]
  split
  · split
    · simp only [ofUnpacked, hsign]
    · rfl
  · split
    · rename_i hexponent
      split
      · rename_i hfraction
        simp only [ofUnpacked, hsign, hfraction]
      · simp only [ofUnpacked, hsign, toNat_unpackMantissa, toNat_unpackExponent, hexponent]
        rfl
    · simp only [ofUnpacked, hsign, toNat_one_append, toNat_unpackMantissa, toNat_unpackExponent]
      rfl

theorem unpack_of_ofFloat {x : Float} {s : Sign} {m : Nat} {e : Int} (hpos : 0 < m)
    (h : ofFloat x = .finite (s == .negative) m e) : x.toModel.unpack = .finite s m e hpos := by
  rw [ofFloat_eq_ofUnpacked] at h
  cases hunpack : x.toModel.unpack with
  | finite t n f hn =>
      rw [hunpack] at h
      obtain ⟨hsign, rfl, rfl⟩ := Binary64.finite.inj h
      cases s <;> cases t <;> first | rfl | cases hsign
  | zero t =>
      rw [hunpack] at h
      obtain ⟨-, rfl, -⟩ := Binary64.finite.inj h
      cases hpos
  | infinity t => rw [hunpack] at h; cases h
  | notANumber => rw [hunpack] at h; cases h

theorem eq_of_toBits {x y : Float} (h : x.toBits.toNat = y.toBits.toNat) : x = y := by
  obtain ⟨⟨bits, _⟩⟩ := x
  obtain ⟨⟨others, _⟩⟩ := y
  obtain rfl : bits = others := UInt64.toNat_inj.mp h
  rfl

theorem eq_of_ofFloat {x y : Float} {negative : Bool} {m : Nat} {e : Int}
    (hx : ofFloat x = .finite negative m e) (hy : ofFloat y = .finite negative m e) : x = y := by
  apply eq_of_toBits
  have hxlt : x.toBits.toNat < 2 ^ 64 := x.toBits.toNat_lt
  have hylt : y.toBits.toNat < 2 ^ 64 := y.toBits.toNat_lt
  unfold ofFloat at hx hy
  simp only [Nat.pow_eq, beq_iff_eq] at hx hy
  split at hx
  · split at hx <;> cases hx
  · split at hy
    · split at hy <;> cases hy
    · split at hx <;> split at hy <;> obtain ⟨hsign, hm, he⟩ := Binary64.finite.inj hx <;>
        obtain ⟨hsign', hm', he'⟩ := Binary64.finite.inj hy <;>
        rw [← hsign', Bool.eq_iff_iff, beq_iff_eq, beq_iff_eq] at hsign <;> omega

theorem canonical_of_unpack {x : Float} {s : Sign} {m : Nat} {e : Int} {hpos : 0 < m}
    (h : x.toModel.unpack = .finite s m e hpos) : Canonical m e ∧ e ≤ 971 := by
  have hform := ofFloat_eq_ofUnpacked x
  rw [h, ofUnpacked] at hform
  unfold ofFloat at hform
  simp only [Nat.pow_eq, beq_iff_eq] at hform
  split at hform
  · split at hform <;> cases hform
  · split at hform
    · obtain ⟨-, rfl, rfl⟩ := Binary64.finite.inj hform
      exact ⟨⟨hpos, by omega, le_rfl, .inr rfl⟩, by omega⟩
    · obtain ⟨-, rfl, rfl⟩ := Binary64.finite.inj hform
      exact ⟨⟨hpos, by omega, by omega, .inl (by omega)⟩, by omega⟩

/-! ## Packing -/

theorem finite_congr {s : Sign} {m n : Nat} {e f : Int} (hmantissa : m = n) (hexponent : e = f)
    (hm : 0 < m) (hn : 0 < n) : UnpackedFloat.finite s m e hm = .finite s n f hn := by
  subst hmantissa hexponent
  rfl

theorem unpack_normal {m biased : Nat} (hlong : 2 ^ 52 ≤ m) (hlt : m < 2 ^ 53)
    (hpos : 0 < biased) (hleast : biased < 2047) (s : Sign) :
    unpack Format.binary64
        (packComponents Format.binary64 s (BitVec.ofNat 11 biased) (BitVec.ofNat 52 m)) =
      .finite s m (biased - 1075) (by omega) := by
  have hexponent : (BitVec.ofNat 11 biased).toNat = biased := by
    rw [BitVec.toNat_ofNat, Nat.mod_eq_of_lt (by omega)]
  have hmantissa : (1#1 ++ BitVec.ofNat 52 m).toNat = m := by
    rw [toNat_one_append, BitVec.toNat_ofNat]
    omega
  have hnotAll : BitVec.ofNat 11 biased ≠ -1#11 := by
    rw [ne_eq, ← BitVec.toNat_inj, hexponent, show (-1#11 : BitVec 11).toNat = 2047 from rfl]
    omega
  have hnotNone : BitVec.ofNat 11 biased ≠ 0#11 := by
    rw [ne_eq, ← BitVec.toNat_inj, hexponent, show (0#11 : BitVec 11).toNat = 0 from rfl]
    omega
  rw [unpack]
  simp only [unpackMantissa_packComponents, unpackExponent_packComponents,
    unpackSign_packComponents, Sign.ofBitVec_toBitVec, if_neg hnotAll, if_neg hnotNone]
  refine finite_congr hmantissa ?_ _ _
  rw [hexponent]
  rfl

theorem unpack_subnormal {m : Nat} (hpos : 0 < m) (hshort : m < 2 ^ 52) (s : Sign) :
    unpack Format.binary64 (packComponents Format.binary64 s 0#11 (BitVec.ofNat 52 m)) =
      .finite s m (-1074) hpos := by
  have hmantissa : (BitVec.ofNat 52 m).toNat = m := by
    rw [BitVec.toNat_ofNat, Nat.mod_eq_of_lt hshort]
  have hsome : BitVec.ofNat 52 m ≠ 0#52 := by
    rw [ne_eq, ← BitVec.toNat_inj, hmantissa, show (0#52 : BitVec 52).toNat = 0 from rfl]
    omega
  rw [unpack]
  simp only [unpackMantissa_packComponents, unpackExponent_packComponents,
    unpackSign_packComponents, Sign.ofBitVec_toBitVec, if_neg (by decide : ¬ 0#11 = -1#11),
    if_true, dif_neg hsome]
  exact finite_congr hmantissa rfl _ _

namespace Canonical

variable {m : Nat} {e : Int} (h : Canonical m e)

include h

theorem unpack_pack (he : e ≤ 971) (s : Sign) :
    unpack Format.binary64 (pack Format.binary64 (.finite s m e h.pos)) = .finite s m e h.pos := by
  obtain ⟨hpos, hlt, hleast, hfull⟩ := h
  obtain ⟨biased, hbiased⟩ : ∃ biased : Nat, e + 1023 + 52 = biased :=
    ⟨(e + 1023 + 52).toNat, by omega⟩
  have hfits : ¬ 2 ^ 11 ≤ biased + 1 := by omega
  have hpacked : pack Format.binary64 (.finite s m e hpos) =
      if m.log2 + 1 = 53 then
        packComponents Format.binary64 s (BitVec.ofNat 11 biased) (BitVec.ofNat 52 m)
      else packComponents Format.binary64 s 0#11 (BitVec.ofNat 52 m) := by
    have htotal : e + Format.binary64.exponentBias + Format.binary64.mantissaBitsWithoutImplicit =
        biased := hbiased
    rw [pack, htotal, Int.toNat_natCast, if_neg hfits]
    rfl
  rw [hpacked]
  by_cases hnormal : 2 ^ 52 ≤ m
  · rw [if_pos (by rw [log2_eq_of_bounds hnormal hlt]),
      unpack_normal hnormal hlt (by omega) (by omega)]
    exact finite_congr rfl (by omega) _ _
  · have hshort : m.log2 + 1 ≠ 53 := by
      have := (Nat.log2_lt hpos.ne').mpr (Nat.lt_of_not_le hnormal)
      omega
    rw [if_neg hshort, unpack_subnormal hpos (Nat.lt_of_not_le hnormal)]
    exact finite_congr rfl (by omega) _ _

theorem unpack_pack_of_lt (he : 971 < e) (s : Sign) :
    unpack Format.binary64 (pack Format.binary64 (.finite s m e h.pos)) = .infinity s := by
  have hbiased : 2 ^ 11 ≤ (e + 1023 + 52).toNat + 1 := by omega
  have hpacked : pack Format.binary64 (.finite s m e h.pos) =
      packComponents Format.binary64 s (-1#11) 0 := if_pos hbiased
  rw [hpacked, unpack]
  simp only [unpackMantissa_packComponents, unpackExponent_packComponents,
    unpackSign_packComponents, Sign.ofBitVec_toBitVec, if_true]
  rfl

end Canonical

end Binary64

end BraceTemplate
