import Mathlib
import Wireframe.Binary.Format

namespace Wireframe.Binary

open Float.Model.UnpackedFloat

variable {spec : Float.Model.Format} {bits : BitVec spec.numBits}

theorem toNat_unpackMantissa :
    (unpackMantissa bits).toNat = bits.toNat % 2 ^ spec.mantissaBitsWithoutImplicit := by
  rw [unpackMantissa_def, BitVec.extractLsb'_toNat, Nat.shiftRight_zero]

theorem toNat_unpackExponent :
    (unpackExponent bits).toNat =
      bits.toNat / 2 ^ spec.mantissaBitsWithoutImplicit % 2 ^ spec.exponentBits := by
  rw [unpackExponent_def, BitVec.extractLsb'_toNat, Nat.shiftRight_eq_div_pow]

theorem valid_of_decode
    (number : (Format.mk spec.mantissaBitsWithoutImplicit spec.exponentBits).decode bits.toNat ≠
      .nan) : spec.Valid bits := by
  constructor
  intro last unclean
  have exponent := congrArg BitVec.toNat last
  rw [toNat_unpackExponent, BitVec.neg_one_eq_allOnes, BitVec.toNat_allOnes] at exponent
  have mantissa : bits.toNat % 2 ^ spec.mantissaBitsWithoutImplicit ≠ 0 := by
    rw [← toNat_unpackMantissa]
    intro zero
    exact unclean (BitVec.eq_of_toNat_eq zero)
  refine absurd ?_ number
  simp only [Format.decode, Nat.pow_eq, exponent, if_true, if_neg mantissa]

theorem eq_packedNaN (valid : spec.Valid bits)
    (none : (Format.mk spec.mantissaBitsWithoutImplicit spec.exponentBits).decode bits.toNat =
      .nan) : bits = packedNaN spec := by
  simp only [Format.decode, Nat.pow_eq] at none
  split at none
  · rename_i last
    split at none
    · cases none
    · rename_i unclean
      apply valid.eq_packedNaN
      · apply BitVec.eq_of_toNat_eq
        rw [toNat_unpackExponent, BitVec.neg_one_eq_allOnes, BitVec.toNat_allOnes, last]
      · intro clean
        rw [← toNat_unpackMantissa, clean] at unclean
        exact unclean BitVec.toNat_zero
  · split at none <;> cases none

theorem toBits_ofBits {bits : UInt64} (valid : Float.Model.Format.binary64.Valid bits.toBitVec) :
    (Float.ofBits bits).toBits = bits := by
  apply UInt64.toBitVec_inj.mp
  exact pack_unpack_of_valid valid

end Wireframe.Binary
