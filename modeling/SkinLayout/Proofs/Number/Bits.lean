import Mathlib
import SkinLayout.Number.Single
/-!
# Numbers are their bit patterns

A number of single precision is a sign and a pattern (`ofPattern_magnitude`, `magnitude_ofPattern`),
and the patterns past infinity are all one number (`eq_nan_of_isNaN`).  So two numbers are equal if their bits are; only
`==` tells less, as it takes the two zeros for one (`beq_zero_iff`).
-/
namespace SkinLayout
namespace Single

open Float.Model (Format)
open Float.Model.UnpackedFloat (unpackExponent unpackMantissa unpackSign packedNaN unpack isNaNBits
  pack_unpack)

/-! ## Fields of a word -/

theorem toNat_unpackExponent (b : BitVec Format.binary32.numBits) :
    (unpackExponent b).toNat = b.toNat / 2 ^ 23 % 2 ^ 8 := by
  simp [unpackExponent, BitVec.extractLsb_toNat, Nat.shiftRight_eq_div_pow]

theorem toNat_unpackMantissa (b : BitVec Format.binary32.numBits) :
    (unpackMantissa b).toNat = b.toNat % 2 ^ 23 := by
  simp [unpackMantissa, BitVec.extractLsb_toNat]

theorem toNat_unpackSign (b : BitVec Format.binary32.numBits) :
    (unpackSign b).toNat = b.toNat / 2 ^ 31 % 2 := by
  simp [unpackSign, BitVec.extractLsb_toNat, Nat.shiftRight_eq_div_pow]

/-! ## Sign and pattern -/

theorem ofPattern_magnitude (x : Float32) : ofPattern (isNegative x) (magnitude x) = x := by
  have hlt : x.toBits.toNat < 2 ^ 32 := x.toBits.toNat_lt
  have hbits : (if isNegative x then 2 ^ 31 + magnitude x else magnitude x) = x.toBits.toNat := by
    unfold isNegative magnitude
    by_cases h : 2 ^ 31 ≤ x.toBits.toNat
    · rw [if_pos (by simpa using h)]
      omega
    · rw [if_neg (by simpa using h)]
      omega
  unfold ofPattern
  rw [hbits, UInt32.ofNat_toNat, Float32.ofBits_toBits]

theorem isNaN_iff (x : Float32) : x.isNaN = true ↔ x = nan := by
  have hnan : Float32.nan = nan := by decide
  rw [Float32.isNaN_eq_decide_eq_nan, decide_eq_true_eq, hnan]

/-- **There is one not-a-number.** -/
theorem eq_nan_of_isNaN {x : Float32} (h : x.isNaN = true) : x = nan := (isNaN_iff x).1 h

/-- A pattern past infinity has every bit of the exponent, and some bit of the fraction. -/
theorem eq_packedNaN_of_top_lt {x : Float32} (h : BinaryFormat.single.top < magnitude x) :
    x.toBits.toBitVec = packedNaN Format.binary32 := by
  have htop : 0x7f800000 < x.toBits.toBitVec.toNat % 2 ^ 31 := h
  have hlt : x.toBits.toBitVec.toNat < 2 ^ 32 := x.toBits.toBitVec.isLt
  have hexp : @unpackExponent Format.binary32 x.toBits.toBitVec = -1#8 := by
    refine BitVec.eq_of_toNat_eq ((toNat_unpackExponent _).trans ?_)
    show _ = 255
    omega
  have hman : @unpackMantissa Format.binary32 x.toBits.toBitVec ≠ 0#23 := by
    intro hzero
    have hfield := toNat_unpackMantissa x.toBits.toBitVec
    rw [hzero] at hfield
    have hrest : x.toBits.toBitVec.toNat % 2 ^ 23 = 0 := hfield.symm
    omega
  exact x.toModel.valid.eq_packedNaN hexp hman

theorem magnitude_le_top {x : Float32} (h : ¬ x.isNaN = true) :
    magnitude x ≤ BinaryFormat.single.top := by
  by_contra hlt
  have hbits : x.toBits = ⟨packedNaN Format.binary32⟩ :=
    UInt32.toBitVec_inj.1 (eq_packedNaN_of_top_lt (Nat.not_le.1 hlt))
  refine h ((isNaN_iff x).2 ?_)
  rw [← Float32.ofBits_toBits x, hbits]
  decide

/-! ## The number of a pattern -/

theorem toBits_ofPattern (negative : Bool) {b : Nat} (hb : b ≤ BinaryFormat.single.top) :
    (ofPattern negative b).toBits.toNat = if negative then 2 ^ 31 + b else b := by
  have htop : b ≤ 0x7f800000 := hb
  have hlt : (if negative then 2 ^ 31 + b else b) < 2 ^ 32 := by split <;> omega
  generalize hn : (if negative then 2 ^ 31 + b else b) = n at hlt
  have hpack : (ofPattern negative b).toBits.toBitVec =
      (unpack Format.binary32 (UInt32.ofNat n).toBitVec).pack Format.binary32 := by
    rw [← hn]
    rfl
  have hbits : (UInt32.ofNat n).toBitVec.toNat = n := UInt32.toNat_ofNat_of_lt' hlt
  have hvalid : @isNaNBits Format.binary32 (UInt32.ofNat n).toBitVec = false := by
    refine decide_eq_false fun ⟨hexp, hman⟩ => hman (BitVec.eq_of_toNat_eq ?_)
    have hexp : n / 2 ^ 23 % 2 ^ 8 = 255 := by
      rw [← hbits, ← toNat_unpackExponent, hexp]
      rfl
    rw [toNat_unpackMantissa, hbits]
    show n % 2 ^ 23 = 0
    split at hn <;> omega
  show (ofPattern negative b).toBits.toBitVec.toNat = n
  rw [hpack, pack_unpack, hvalid]
  exact hbits

theorem magnitude_ofPattern (negative : Bool) {b : Nat} (hb : b ≤ BinaryFormat.single.top) :
    magnitude (ofPattern negative b) = b := by
  have htop : b ≤ 0x7f800000 := hb
  unfold magnitude
  rw [toBits_ofPattern negative hb]
  split <;> omega

theorem isNegative_ofPattern (negative : Bool) {b : Nat} (hb : b ≤ BinaryFormat.single.top) :
    isNegative (ofPattern negative b) = negative := by
  have htop : b ≤ 0x7f800000 := hb
  unfold isNegative
  rw [toBits_ofPattern negative hb]
  cases negative
  · exact decide_eq_false (by rw [if_neg Bool.false_ne_true]; omega)
  · exact decide_eq_true (by rw [if_pos rfl]; omega)

/-! ## The two zeros -/

/-- **A number that equals zero is one of the two zeros.** -/
theorem beq_zero_iff (x : Float32) : (x == 0) = true ↔ x = 0 ∨ x = -0 := by
  constructor
  · intro h
    rcases (Float32.beq_iff_ne_nan_and_eq.1 h).2.2 with h | ⟨_, h⟩ | ⟨h, _⟩
    · exact .inl h
    · exact absurd h (by decide)
    · exact .inr h
  · rintro (rfl | rfl) <;> decide

end Single
end SkinLayout
