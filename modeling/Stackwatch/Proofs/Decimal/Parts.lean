import Stackwatch.Decimal.Double
import Mathlib

/-!
# The parts of a double

A finite double is taken apart into a sign, a significand and an exponent, and these three are put
together into the same double again. The bits of a double that is no number are not kept by the
model of floating-point numbers, which has but one such double; so the statements here are about the
finite ones.
-/

namespace Stackwatch.Decimal

open Float.Model (Format UnpackedFloat)
open Float.Model.UnpackedFloat

/-! ### Bit fields -/

theorem toNat_unpackMantissa (bits : BitVec 64) :
    (@unpackMantissa Format.binary64 bits).toNat = bits.toNat % 2 ^ 52 := by
  simp [unpackMantissa, Format.binary64]

theorem toNat_unpackExponent (bits : BitVec 64) :
    (@unpackExponent Format.binary64 bits).toNat = bits.toNat / 2 ^ 52 % 2 ^ 11 := by
  simp [unpackExponent, Format.binary64]
  omega

theorem toNat_unpackSign (bits : BitVec 64) :
    (@unpackSign Format.binary64 bits).toNat = bits.toNat / 2 ^ 63 := by
  simp [unpackSign, Format.binary64]
  omega

theorem toBitVec_ofBitVec (bit : BitVec 1) : (Sign.ofBitVec bit).toBitVec = bit := by
  revert bit
  decide

theorem toNat_append {left right : Nat} (first : BitVec left) (second : BitVec right) :
    (first ++ second).toNat = first.toNat * 2 ^ right + second.toNat := by
  rw [BitVec.toNat_append, ← Nat.shiftLeft_add_eq_or_of_lt second.isLt, Nat.shiftLeft_eq]

/-- The fields of a double make up all of its bits. -/
theorem packComponents_unpacked (bits : BitVec 64) :
    packComponents Format.binary64 (Sign.ofBitVec (@unpackSign Format.binary64 bits))
      (@unpackExponent Format.binary64 bits)
      (@unpackMantissa Format.binary64 bits) = bits := by
  refine BitVec.eq_of_toNat_eq ?_
  rw [packComponents, toBitVec_ofBitVec, toNat_append, toNat_append, toNat_unpackSign,
    toNat_unpackExponent, toNat_unpackMantissa]
  have exponentBits : Format.binary64.exponentBits = 11 := rfl
  have mantissaBits : Format.binary64.mantissaBitsWithoutImplicit = 52 := rfl
  have fits := bits.isLt
  rw [exponentBits, mantissaBits]
  omega

/-! ### Packing -/

theorem pack_eq (sign : Sign) (mantissa : Nat) (exponent : Int) (positive : 0 < mantissa) :
    UnpackedFloat.pack Format.binary64 (.finite sign mantissa exponent positive) =
      if 2 ^ 11 ≤ (exponent + 1023 + 52).toNat + 1 then packedInfinity Format.binary64 sign
      else if mantissa.log2 + 1 = 53 then
        packComponents Format.binary64 sign (BitVec.ofNat 11 (exponent + 1023 + 52).toNat)
          (BitVec.ofNat 52 mantissa)
      else packComponents Format.binary64 sign 0#11 (BitVec.ofNat 52 mantissa) := rfl

theorem pack_subnormal (sign : Sign) (mantissa : BitVec 52) {exponent : Int}
    (least : exponent = -1074) (positive : 0 < mantissa.toNat) :
    UnpackedFloat.pack Format.binary64 (.finite sign mantissa.toNat exponent positive) =
      packComponents Format.binary64 sign 0#11 mantissa := by
  subst least
  have short : mantissa.toNat.log2 < 52 := (Nat.log2_lt positive.ne').mpr mantissa.isLt
  rw [pack_eq, if_neg (by decide), if_neg (by omega), BitVec.ofNat_toNat, BitVec.setWidth_eq]

theorem pack_normal (sign : Sign) (biased : BitVec 11) (mantissa : BitVec 52)
    (proper : biased.toNat < 2047) (positive : 0 < (1#1 ++ mantissa).toNat) :
    UnpackedFloat.pack Format.binary64
        (.finite sign (1#1 ++ mantissa).toNat (biased.toNat - 1075) positive) =
      packComponents Format.binary64 sign biased mantissa := by
  have whole : (1#1 ++ mantissa).toNat = 2 ^ 52 + mantissa.toNat := by
    rw [toNat_append, BitVec.toNat_ofNat, Nat.one_mod, Nat.one_mul]
  have long : (1#1 ++ mantissa).toNat.log2 = 52 := by
    have short := mantissa.isLt
    exact (Nat.log2_eq_iff positive.ne').mpr ⟨by omega, by omega⟩
  have kept : ((biased.toNat : Int) - 1075 + 1023 + 52).toNat = biased.toNat := by omega
  have digits : BitVec.ofNat 52 (1#1 ++ mantissa).toNat = mantissa := by
    rw [whole]
    refine BitVec.eq_of_toNat_eq ?_
    rw [BitVec.toNat_ofNat, Nat.add_mod_left, Nat.mod_eq_of_lt mantissa.isLt]
  rw [pack_eq, kept, if_neg (by omega), if_pos (by omega), digits, BitVec.ofNat_toNat,
    BitVec.setWidth_eq]

/-- A finite double is packed again into the bits from which it was unpacked. -/
theorem pack_unpack {bits : BitVec 64}
    (finite : (unpack Format.binary64 bits).isFinite = true) :
    UnpackedFloat.pack Format.binary64 (unpack Format.binary64 bits) = bits := by
  have parts := packComponents_unpacked bits
  unfold unpack at finite ⊢
  dsimp only at finite ⊢
  split at finite
  · split at finite <;> cases finite
  · next notOnes =>
      rw [if_neg notOnes]
      split
      · next noExponent =>
          rw [noExponent] at parts
          split
          · next noMantissa =>
              rw [noMantissa] at parts
              exact parts
          · refine (pack_subnormal _ _ ?_ _).trans parts
            rw [noExponent]
            rfl
      · have proper : (@unpackExponent Format.binary64 bits).toNat < 2047 := by
          have different : (@unpackExponent Format.binary64 bits).toNat ≠ 2047 :=
            fun same => notOnes (BitVec.eq_of_toNat_eq same)
          exact Nat.lt_of_le_of_ne (Nat.le_of_lt_succ (BitVec.isLt _)) different
        exact (pack_normal _ _ _ proper _).trans parts

/-- In a finite double not all bits of the exponent are ones. -/
theorem exponent_of_isFinite {bits : BitVec 64}
    (finite : (unpack Format.binary64 bits).isFinite = true) :
    bits.toNat / 2 ^ 52 % 2 ^ 11 ≠ 2047 := by
  intro same
  have ones : @unpackExponent Format.binary64 bits = -1#11 :=
    BitVec.eq_of_toNat_eq ((toNat_unpackExponent bits).trans same)
  unfold unpack at finite
  dsimp only at finite
  rw [if_pos ones] at finite
  split at finite <;> cases finite

/-! ### Taking a double apart -/

/-- What can be the parts of a finite double: a number of 53 bits, the first of which is set unless
    the exponent is the least one. -/
structure Parts (significand : Nat) (exponent : Int) : Prop where
  fits : significand < 2 ^ 53
  least : leastExponent ≤ exponent
  greatest : exponent ≤ greatestExponent
  normal : 2 ^ 52 ≤ significand ∨ exponent = leastExponent

theorem exists_parts_of_bits {bits : Nat} (fits : bits < 2 ^ 64)
    (finite : bits / 2 ^ 52 % 2 ^ 11 ≠ 2047) :
    ∃ negative significand exponent,
      Double.ofBits bits = .finite negative significand exponent ∧ Parts significand exponent ∧
        (Double.finite negative significand exponent).toBits = bits := by
  have sign : (bits.testBit 63).toNat = bits / 2 ^ 63 := by
    rw [Nat.toNat_testBit]
    omega
  simp only [Double.ofBits, Nat.pow_eq]
  rw [if_neg finite]
  split
  · next subnormal =>
      have short : bits % 2 ^ 52 < 2 ^ 52 := Nat.mod_lt _ (by decide)
      refine ⟨_, _, _, rfl, ⟨by omega, by decide, by decide, .inr rfl⟩, ?_⟩
      rw [Double.toBits, sign, Nat.pow_eq, Nat.pow_eq, if_pos short]
      omega
  · next normal =>
      have kept : (leastExponent + (bits / 2 ^ 52 % 2 ^ 11 - 1 : Nat) - leastExponent).toNat + 1 =
          bits / 2 ^ 52 % 2 ^ 11 := by omega
      have greatest : leastExponent + (bits / 2 ^ 52 % 2 ^ 11 - 1 : Nat) ≤ greatestExponent := by
        rw [leastExponent, greatestExponent]
        omega
      refine ⟨_, _, _, rfl, ⟨by omega, by omega, greatest, .inl (by omega)⟩, ?_⟩
      rw [Double.toBits, sign, Nat.pow_eq, Nat.pow_eq, if_neg (by omega), kept]
      omega

/-- A finite double is put together from the parts into which it is taken apart. -/
theorem exists_parts {value : Float} (finite : value.isFinite = true) :
    ∃ negative significand exponent,
      Double.ofFloat value = .finite negative significand exponent ∧ Parts significand exponent ∧
        (Double.finite negative significand exponent).toFloat = value := by
  obtain ⟨negative, significand, exponent, taken, parts, together⟩ :=
    exists_parts_of_bits value.toBits.toNat_lt (exponent_of_isFinite finite)
  refine ⟨negative, significand, exponent, taken, parts, ?_⟩
  rw [Double.toFloat, together, UInt64.ofNat_toNat]
  obtain ⟨⟨bits, valid⟩⟩ := value
  have model : Float.Model.ofBits bits = ⟨bits, valid⟩ := by
    rw [Float.Model.ofBits, Float.Model.pack, Float.Model.mk.injEq]
    exact congrArg UInt64.ofBitVec (pack_unpack finite)
  exact congrArg Float.ofModel model

end Stackwatch.Decimal
