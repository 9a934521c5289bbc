import Mathlib.Algebra.Ring.Int.Defs
import Mathlib.Algebra.Ring.Nat
import Mathlib.Data.Nat.Log
import Worksheet.Decimal.Binary64

/-!
# Floats and their words

The sign and the sign-free word of a float determine it, and every sign-free word up to that of infinity is
the word of a float.

* `pack_unpack` : unpacking the bits of a float and packing them again changes nothing;
* `toBits_ofBits` : so the bits of a float that is made from bits are those bits;
* `magnitude_ofParts`, `isNegative_ofParts`, `ofParts_magnitude` : sign and word;
* `isFinite_iff`, `isFinite_ofBits_iff` : the finite floats are those with a word below that of infinity.
-/

namespace Worksheet.Decimal

open Float.Model Float.Model.UnpackedFloat

/-! ## The fields of a word -/

variable (b : BitVec Format.binary64.numBits)

theorem toNat_unpackMantissa : (unpackMantissa b).toNat = b.toNat % 2 ^ 52 := by
  unfold unpackMantissa
  rw [BitVec.toNat_cast, BitVec.extractLsb_toNat, Nat.shiftRight_zero]
  rfl

theorem toNat_unpackExponent : (unpackExponent b).toNat = b.toNat / 2 ^ 52 % 2 ^ 11 := by
  unfold unpackExponent
  rw [BitVec.toNat_cast, BitVec.extractLsb_toNat, Nat.shiftRight_eq_div_pow]
  rfl

theorem toNat_unpackSign : (unpackSign b).toNat = b.toNat / 2 ^ 63 := by
  unfold unpackSign
  rw [BitVec.toNat_cast, BitVec.extractLsb_toNat, Nat.shiftRight_eq_div_pow]
  have hlt : b.toNat < 2 ^ 64 := b.isLt
  show b.toNat / 2 ^ 63 % 2 = b.toNat / 2 ^ 63
  omega

theorem toNat_packComponents (s : Sign) (exponent : BitVec 11) (mantissa : BitVec 52) :
    (packComponents Format.binary64 s exponent mantissa).toNat =
      (s.toBitVec.toNat * 2 ^ 11 + exponent.toNat) * 2 ^ 52 + mantissa.toNat := by
  unfold packComponents
  rw [BitVec.toNat_append, BitVec.toNat_append, ← Nat.shiftLeft_add_eq_or_of_lt exponent.isLt,
    ← Nat.shiftLeft_add_eq_or_of_lt mantissa.isLt, Nat.shiftLeft_eq, Nat.shiftLeft_eq]

theorem toBitVec_ofBitVec (v : BitVec 1) : (Sign.ofBitVec v).toBitVec = v := by
  revert v
  decide

theorem packComponents_unpack :
    packComponents Format.binary64 (Sign.ofBitVec (unpackSign b)) (unpackExponent b) (unpackMantissa b) = b := by
  apply BitVec.eq_of_toNat_eq
  rw [toNat_packComponents, toBitVec_ofBitVec, toNat_unpackSign, toNat_unpackExponent, toNat_unpackMantissa]
  have hlt : b.toNat < 2 ^ 64 := b.isLt
  omega

/-! ## Packing what was unpacked -/

theorem pack_subnormal (s : Sign) (mantissa : BitVec 52) (hm : 0 < mantissa.toNat) :
    UnpackedFloat.pack Format.binary64 (.finite s mantissa.toNat (-1074) hm) =
      packComponents Format.binary64 s 0#11 mantissa := by
  have hbiased : ((-1074 : Int) + Format.binary64.exponentBias + (52 : Nat)).toNat = 1 := by decide
  have hlog : mantissa.toNat.log2 < 52 := (Nat.log2_lt (by omega)).mpr mantissa.isLt
  unfold UnpackedFloat.pack
  dsimp only
  rw [hbiased, if_neg (by decide), if_neg (by rw [show Format.binary64.mantissaBits = 53 from rfl]; omega),
    BitVec.ofNat_toNat, BitVec.setWidth_eq]

theorem toNat_one_append (mantissa : BitVec 52) : (1#1 ++ mantissa).toNat = 2 ^ 52 + mantissa.toNat := by
  rw [BitVec.toNat_append, ← Nat.shiftLeft_add_eq_or_of_lt mantissa.isLt]
  rfl

theorem pack_normal (s : Sign) (exponent : BitVec 11) (mantissa : BitVec 52) (hexponent : exponent.toNat < 2047)
    (hm : 0 < (1#1 ++ mantissa).toNat) :
    UnpackedFloat.pack Format.binary64 (.finite s (1#1 ++ mantissa).toNat (exponent.toNat - 1075) hm) =
      packComponents Format.binary64 s exponent mantissa := by
  have hbias : (Format.binary64.exponentBias : Int) = 1023 := by decide
  have hbiased : ((exponent.toNat : Int) - 1075 + Format.binary64.exponentBias + (52 : Nat)).toNat =
      exponent.toNat := by
    rw [hbias]
    omega
  have htoNat := toNat_one_append mantissa
  have hlt := mantissa.isLt
  have hlog : (1#1 ++ mantissa).toNat.log2 = 52 := by
    rw [htoNat, Nat.log2_eq_iff (by omega)]
    omega
  have hmantissa : BitVec.ofNat 52 (1#1 ++ mantissa).toNat = mantissa := by
    apply BitVec.eq_of_toNat_eq
    rw [BitVec.toNat_ofNat, htoNat]
    omega
  unfold UnpackedFloat.pack
  dsimp only
  rw [hbiased, if_neg (by simpa using by omega), if_pos (by rw [hlog]; rfl), hmantissa, BitVec.ofNat_toNat,
    BitVec.setWidth_eq]

/-- Unpacking bits and packing them again changes nothing, except that there is one value only that is no
number. -/
theorem pack_unpack (hvalid : Format.binary64.Valid b) :
    UnpackedFloat.pack Format.binary64 (UnpackedFloat.unpack Format.binary64 b) = b := by
  have hfields := packComponents_unpack b
  have hbias : (Format.binary64.exponentBias : Int) + Format.binary64.mantissaBitsWithoutImplicit = 1075 := by
    decide
  unfold UnpackedFloat.unpack
  dsimp only
  rw [hbias]
  by_cases hones : unpackExponent b = -1#_
  · rw [if_pos hones]
    by_cases hzero : unpackMantissa b = 0#_
    · rw [if_pos hzero]
      rw [hones, hzero] at hfields
      exact hfields
    · rw [if_neg hzero]
      exact (hvalid.eq_packedNaN hones hzero).symm
  · rw [if_neg hones]
    by_cases hexponent : unpackExponent b = 0#_
    · rw [if_pos hexponent]
      rw [hexponent] at hfields
      by_cases hzero : unpackMantissa b = 0#_
      · rw [dif_pos hzero]
        rw [hzero] at hfields
        exact hfields
      · rw [dif_neg hzero, hexponent]
        exact (pack_subnormal _ _ _).trans hfields
    · rw [if_neg hexponent]
      refine (pack_normal _ _ _ ?_ _).trans hfields
      have hlt : (unpackExponent b).toNat < 2048 := (unpackExponent b).isLt
      have hne : (unpackExponent b).toNat ≠ 2047 := fun h => hones (BitVec.eq_of_toNat_eq h)
      omega

/-! ## Bits -/

theorem ofBits_toBits (x : Float) : Float.ofBits x.toBits = x := by
  obtain ⟨m⟩ := x
  obtain ⟨bits, hvalid⟩ := m
  show Float.ofModel (Float.Model.ofBits bits) = _
  congr 1
  unfold Float.Model.ofBits Float.Model.pack
  congr 1
  rw [pack_unpack _ hvalid]

theorem valid_of_magnitude_le {b : BitVec Format.binary64.numBits} (h : b.toNat % 2 ^ 63 ≤ infinityWord) :
    Format.binary64.Valid b := by
  refine ⟨fun hones hne => absurd (BitVec.eq_of_toNat_eq ?_) hne⟩
  have hexponent := congrArg BitVec.toNat hones
  rw [toNat_unpackExponent] at hexponent
  have hones' : (-1#11 : BitVec 11).toNat = 2047 := by decide
  have hexponent : b.toNat / 2 ^ 52 % 2 ^ 11 = 2047 := hexponent.trans hones'
  have hmantissa : b.toNat % 2 ^ 52 = 0 := by
    unfold infinityWord hiddenBit at h
    omega
  exact (toNat_unpackMantissa b).trans hmantissa

theorem toBits_ofBits {bits : UInt64} (h : bits.toNat % 2 ^ 63 ≤ infinityWord) :
    (Float.ofBits bits).toBits = bits := by
  show UInt64.ofBitVec (UnpackedFloat.pack Format.binary64 (UnpackedFloat.unpack Format.binary64 bits.toBitVec)) = bits
  rw [pack_unpack _ (valid_of_magnitude_le h)]

/-! ## Sign and word -/

section

variable {word : Nat} (hword : word ≤ infinityWord) (negative : Bool)
include hword

theorem toNat_toBits_ofParts :
    (ofParts negative word).toBits.toNat = if negative then 2 ^ 63 + word else word := by
  have hlt : infinityWord < 2 ^ 63 := by decide
  have hbits : (UInt64.ofNat (if negative then 2 ^ 63 + word else word)).toNat =
      if negative then 2 ^ 63 + word else word := by
    apply Nat.mod_eq_of_lt
    cases negative <;> simp <;> omega
  rw [ofParts, toBits_ofBits, hbits]
  rw [hbits]
  cases negative <;> simp <;> omega

theorem magnitude_ofParts : magnitude (ofParts negative word) = word := by
  have hlt : infinityWord < 2 ^ 63 := by decide
  rw [magnitude, toNat_toBits_ofParts hword]
  cases negative <;> simp <;> omega

theorem isNegative_ofParts : isNegative (ofParts negative word) = negative := by
  have hlt : infinityWord < 2 ^ 63 := by decide
  rw [isNegative, toNat_toBits_ofParts hword]
  cases negative with
  | false => exact decide_eq_false (by simpa using by omega)
  | true => exact decide_eq_true (by simp)

end

theorem ofParts_magnitude (x : Float) : ofParts (isNegative x) (magnitude x) = x := by
  have hlt := x.toBits.toNat_lt
  have hbits : (if isNegative x then 2 ^ 63 + magnitude x else magnitude x) = x.toBits.toNat := by
    unfold isNegative magnitude
    by_cases h : 2 ^ 63 ≤ x.toBits.toNat
    · simp only [h, decide_true, if_true]
      omega
    · simp only [h, decide_false, Bool.false_eq_true, if_false]
      omega
  rw [ofParts, hbits, UInt64.ofNat_toNat, ofBits_toBits]

/-! ## Finite floats -/

theorem isFinite_unpack :
    (UnpackedFloat.unpack Format.binary64 b).isFinite = decide (unpackExponent b ≠ -1#_) := by
  unfold UnpackedFloat.unpack
  dsimp only
  by_cases hones : unpackExponent b = -1#_
  · rw [if_pos hones, decide_eq_false (not_not_intro hones)]
    by_cases hzero : unpackMantissa b = 0#_
    · rw [if_pos hzero]
      rfl
    · rw [if_neg hzero]
      rfl
  · rw [if_neg hones, decide_eq_true hones]
    by_cases hexponent : unpackExponent b = 0#_
    · rw [if_pos hexponent]
      by_cases hzero : unpackMantissa b = 0#_
      · rw [dif_pos hzero]
        rfl
      · rw [dif_neg hzero]
        rfl
    · rw [if_neg hexponent]
      rfl

theorem unpack_of_finite (hones : unpackExponent b ≠ -1#_) :
    UnpackedFloat.unpack Format.binary64 b = .zero (Sign.ofBitVec (unpackSign b)) ∨
      ∃ m e h, UnpackedFloat.unpack Format.binary64 b = .finite (Sign.ofBitVec (unpackSign b)) m e h := by
  unfold UnpackedFloat.unpack
  dsimp only
  rw [if_neg hones]
  by_cases hexponent : unpackExponent b = 0#_
  · rw [if_pos hexponent]
    by_cases hzero : unpackMantissa b = 0#_
    · rw [dif_pos hzero]
      exact .inl rfl
    · have hpos : 0 < (unpackMantissa b).toNat :=
        Nat.pos_of_ne_zero fun h => hzero (BitVec.eq_of_toNat_eq h)
      rw [dif_neg hzero]
      exact .inr ⟨_, _, hpos, rfl⟩
  · have hpos : 0 < (1#1 ++ unpackMantissa b).toNat := by
      rw [toNat_one_append]
      omega
    rw [if_neg hexponent]
    exact .inr ⟨_, _, hpos, rfl⟩

theorem isFinite_unpack_iff :
    (UnpackedFloat.unpack Format.binary64 b).isFinite = true ↔ b.toNat % 2 ^ 63 < infinityWord := by
  have hlt : b.toNat < 2 ^ 64 := b.isLt
  have hones : (-1#11 : BitVec 11).toNat = 2047 := by decide
  have hexponent : unpackExponent b = -1#_ ↔ b.toNat / 2 ^ 52 % 2 ^ 11 = 2047 := by
    rw [← BitVec.toNat_inj, toNat_unpackExponent]
    exact Eq.congr_right hones
  rw [isFinite_unpack, decide_eq_true_iff, ne_eq, hexponent]
  unfold infinityWord hiddenBit
  omega

/-- The finite floats are those with a word below that of infinity. -/
theorem isFinite_iff (x : Float) : x.isFinite = true ↔ magnitude x < infinityWord :=
  isFinite_unpack_iff x.toBits.toBitVec

theorem unpack_of_infinityWord_lt {b : BitVec Format.binary64.numBits} (h : infinityWord < b.toNat % 2 ^ 63) :
    UnpackedFloat.unpack Format.binary64 b = .notANumber := by
  have hlt : b.toNat < 2 ^ 64 := b.isLt
  have hones : unpackExponent b = -1#_ := by
    apply BitVec.eq_of_toNat_eq
    rw [toNat_unpackExponent]
    show b.toNat / 2 ^ 52 % 2 ^ 11 = 2047
    unfold infinityWord hiddenBit at h
    omega
  have hmantissa : unpackMantissa b ≠ 0#_ := by
    intro hzero
    have hfield : b.toNat % 2 ^ 52 = 0 := (toNat_unpackMantissa b).symm.trans (congrArg BitVec.toNat hzero)
    unfold infinityWord hiddenBit at h
    omega
  unfold UnpackedFloat.unpack
  dsimp only
  rw [if_pos hones, if_neg hmantissa]

theorem isFinite_ofBits_iff (bits : UInt64) :
    (Float.ofBits bits).isFinite = true ↔ bits.toNat % 2 ^ 63 < infinityWord := by
  by_cases h : bits.toNat % 2 ^ 63 ≤ infinityWord
  · rw [isFinite_iff, magnitude, toBits_ofBits h]
  · have hpacked : (Float.ofBits bits).isFinite = (UnpackedFloat.unpack Format.binary64
        (UnpackedFloat.pack Format.binary64 (UnpackedFloat.unpack Format.binary64 bits.toBitVec))).isFinite := rfl
    have hnan : UnpackedFloat.unpack Format.binary64 bits.toBitVec = .notANumber :=
      unpack_of_infinityWord_lt (Nat.lt_of_not_le h)
    rw [hpacked, hnan]
    refine ⟨fun hfinite => absurd hfinite (by decide), fun hlt => absurd (Nat.le_of_lt hlt) h⟩

theorem unpackSign_of_lt (h : b.toNat < 2 ^ 63) : unpackSign b = 0#1 := by
  apply BitVec.eq_of_toNat_eq
  rw [toNat_unpackSign]
  exact Nat.div_eq_of_lt h

theorem unpack_of_isFinite {x : Float} (hx : x.isFinite = true) (hsign : isNegative x = false) :
    x.toModel.unpack = .zero .positive ∨ ∃ m e h, x.toModel.unpack = .finite .positive m e h := by
  have hones := of_decide_eq_true ((isFinite_unpack x.toBits.toBitVec).symm.trans hx)
  have hunpack := unpack_of_finite _ hones
  rw [unpackSign_of_lt _ (Nat.lt_of_not_le (of_decide_eq_false hsign))] at hunpack
  exact hunpack

theorem isFinite_ofParts {word : Nat} (hword : word < infinityWord) (negative : Bool) :
    (ofParts negative word).isFinite = true := by
  rw [isFinite_iff, magnitude_ofParts (Nat.le_of_lt hword)]
  exact hword

end Worksheet.Decimal
