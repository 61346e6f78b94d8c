import Mathlib
import Stackwatch.Gzip.Checksum
import Stackwatch.Proofs.Deflate.Bits

/-!
# Checksums as remainders

Bits are the coefficients of a polynomial over two elements, that of the highest power first. A
checksum is defined by division: with it in its place, the polynomial of some bytes is a multiple of
a fixed generator. The main statement is that the checksum computed bit by bit is the only one.
-/

namespace Stackwatch.Gzip

open Polynomial Deflate

/-- The polynomial with these coefficients, that of the highest power first. -/
noncomputable def bitsPolynomial : (bits : List Bool) → (ZMod 2)[X]
  | [] => 0
  | bit :: rest => (if bit then X ^ rest.length else 0) + bitsPolynomial rest

/-- The generator of the 32-bit cyclic redundancy check. -/
noncomputable def generator : (ZMod 2)[X] :=
  X ^ 32 + X ^ 26 + X ^ 23 + X ^ 22 + X ^ 16 + X ^ 12 + X ^ 11 + X ^ 10 + X ^ 8 + X ^ 7 + X ^ 5 +
    X ^ 4 + X ^ 2 + X + 1

/-- A number is the checksum of some bytes if the generator divides the bytes with the complement of
    the number behind them, and 32 ones added at the front. -/
def IsChecksum (bytes : Bytes) (stated : UInt32) : Prop :=
  generator ∣ X ^ (8 * bytes.length) * bitsPolynomial (List.replicate 32 true) +
    X ^ 32 * bitsPolynomial (bytesBits bytes) +
    bitsPolynomial ((numberBits 32 stated.toNat).map not)

/-! ### Bits and polynomials -/

@[simp]
theorem bitsPolynomial_nil : bitsPolynomial [] = 0 := rfl

theorem bitsPolynomial_cons (bit : Bool) (rest : List Bool) :
    bitsPolynomial (bit :: rest) = (if bit then X ^ rest.length else 0) + bitsPolynomial rest := rfl

theorem bitsPolynomial_append (first second : List Bool) :
    bitsPolynomial (first ++ second) =
      X ^ second.length * bitsPolynomial first + bitsPolynomial second := by
  induction first with
  | nil => simp
  | cons bit rest inductionHypothesis =>
      rw [List.cons_append, bitsPolynomial_cons, inductionHypothesis, bitsPolynomial_cons,
        List.length_append, pow_add]
      split <;> ring

theorem bitsPolynomial_zipWith_xor {first second : List Bool}
    (same : first.length = second.length) :
    bitsPolynomial (List.zipWith xor first second) =
      bitsPolynomial first + bitsPolynomial second := by
  induction first generalizing second with
  | nil =>
      obtain rfl := List.eq_nil_of_length_eq_zero same.symm
      simp
  | cons bit rest inductionHypothesis =>
      cases second with
      | nil => cases same
      | cons other others =>
          have sameRest : rest.length = others.length := Nat.succ.inj same
          have twice : (X ^ others.length : (ZMod 2)[X]) + X ^ others.length = 0 :=
            CharTwo.add_self_eq_zero _
          rw [List.zipWith_cons_cons, bitsPolynomial_cons, bitsPolynomial_cons,
            bitsPolynomial_cons, inductionHypothesis sameRest, List.length_zipWith, sameRest,
            Nat.min_self]
          cases bit with
          | false =>
              cases other with
              | false => simp
              | true =>
                  simp
                  ring
          | true =>
              cases other with
              | false =>
                  simp
                  ring
              | true =>
                  simp
                  linear_combination -twice

@[simp]
theorem bitsPolynomial_replicate_false (count : Nat) :
    bitsPolynomial (List.replicate count false) = 0 := by
  induction count with
  | zero => rfl
  | succ count inductionHypothesis =>
      rw [List.replicate_succ, bitsPolynomial_cons, inductionHypothesis]
      simp

theorem degree_bitsPolynomial_lt (bits : List Bool) :
    (bitsPolynomial bits).degree < bits.length := by
  induction bits with
  | nil => simp
  | cons bit rest inductionHypothesis =>
      rw [bitsPolynomial_cons, List.length_cons]
      refine lt_of_le_of_lt (degree_add_le _ _) (max_lt ?_ ?_)
      · split
        · rw [degree_X_pow]
          exact_mod_cast Nat.lt_succ_self _
        · rw [degree_zero]
          exact WithBot.bot_lt_coe _
      · exact inductionHypothesis.trans (by exact_mod_cast Nat.lt_succ_self _)

theorem bitsPolynomial_eq_zero {bits : List Bool} (zero : bitsPolynomial bits = 0) :
    bits = List.replicate bits.length false := by
  induction bits with
  | nil => rfl
  | cons bit rest inductionHypothesis =>
      cases bit with
      | true =>
          rw [bitsPolynomial_cons, if_pos rfl] at zero
          have small := degree_bitsPolynomial_lt rest
          have degree := congrArg Polynomial.degree (eq_neg_of_add_eq_zero_left zero)
          rw [degree_X_pow, degree_neg] at degree
          exact absurd degree (ne_of_gt small)
      | false =>
          rw [bitsPolynomial_cons, if_neg Bool.false_ne_true, zero_add] at zero
          rw [List.length_cons, List.replicate_succ, ← inductionHypothesis zero]

theorem degree_generator : generator.degree = 32 := by
  unfold generator
  compute_degree!

theorem monic_generator : generator.Monic := by
  unfold generator
  monicity!

/-! ### One division step after the other -/

/-- The remainder that a register holds: the lowest bit is the coefficient of the highest power. -/
noncomputable def remainderPolynomial (register : UInt32) : (ZMod 2)[X] :=
  bitsPolynomial (numberBits 32 register.toNat)

theorem numberBits_xor (width first second : Nat) :
    numberBits width (first ^^^ second) =
      List.zipWith xor (numberBits width first) (numberBits width second) := by
  simp [numberBits, List.zipWith_map, List.zipWith_self, Nat.testBit_xor]

theorem remainderPolynomial_xor (first second : UInt32) :
    remainderPolynomial (first ^^^ second) =
      remainderPolynomial first + remainderPolynomial second := by
  rw [remainderPolynomial, UInt32.toNat_xor, numberBits_xor,
    bitsPolynomial_zipWith_xor (by simp)]
  rfl

/-- Without its highest coefficient, the polynomial of a register that was shifted is the old one
    times the variable. -/
theorem remainderPolynomial_shiftRight (register : UInt32) :
    X * remainderPolynomial register =
      (if register.toNat.testBit 0 then X ^ 32 else 0) + remainderPolynomial (register >>> 1) := by
  have half : (register >>> 1).toNat = register.toNat / 2 := by
    simp [Nat.shiftRight_eq_div_pow]
  have small : register.toNat / 2 < 2 ^ 31 := by
    have := register.toNat_lt
    omega
  have shifted : numberBits 32 (register.toNat / 2) =
      numberBits 31 (register.toNat / 2) ++ List.replicate 1 false := by
    rw [numberBits_add 31 1, Nat.div_eq_of_lt small]
    rfl
  rw [remainderPolynomial, remainderPolynomial, half, shifted, numberBits_succ 31,
    bitsPolynomial_cons, bitsPolynomial_append, bitsPolynomial_replicate_false,
    List.length_replicate, length_numberBits]
  split <;> ring

/-- Behind its leading power, the generator is what a division step adds. -/
theorem generator_eq : generator = X ^ 32 + remainderPolynomial polynomial := by
  have bits : numberBits 32 polynomial.toNat =
      [false, false, false, false, false, true, false, false, true, true, false, false, false,
        false, false, true, false, false, false, true, true, true, false, true, true, false, true,
        true, false, true, true, true] := by
    decide +kernel
  rw [remainderPolynomial, bits]
  simp [bitsPolynomial_cons, generator]
  ring

/-- The generator divides the sum of two polynomials with the same remainder. -/
theorem generator_dvd_trans {first second third : (ZMod 2)[X]} (one : generator ∣ first + second)
    (other : generator ∣ second + third) : generator ∣ first + third := by
  have sum := dvd_add one other
  have twice : second + second = 0 := CharTwo.add_self_eq_zero _
  have same : first + second + (second + third) = first + third := by
    linear_combination twice
  rwa [same] at sum

theorem low_bit (register : UInt32) : register &&& 1 = 1 ↔ register.toNat.testBit 0 := by
  rw [← UInt32.toNat_inj]
  simp [Nat.and_one_is_mod]

/-- A number of division steps multiplies a remainder by as many powers of the variable. -/
theorem generator_dvd_divideBits (count : Nat) (register : UInt32) :
    generator ∣ remainderPolynomial (divideBits count register) +
      X ^ count * remainderPolynomial register := by
  induction count generalizing register with
  | zero =>
      have none : remainderPolynomial register + X ^ 0 * remainderPolynomial register = 0 := by
        rw [pow_zero, one_mul]
        exact CharTwo.add_self_eq_zero _
      exact none ▸ dvd_zero generator
  | succ count inductionHypothesis =>
      rw [divideBits]
      refine generator_dvd_trans (inductionHypothesis _) ?_
      rw [pow_succ, mul_assoc, ← mul_add, remainderPolynomial_shiftRight]
      refine Dvd.dvd.mul_left ?_ _
      have twice :
          remainderPolynomial (register >>> 1) + remainderPolynomial (register >>> 1) = 0 :=
        CharTwo.add_self_eq_zero _
      by_cases odd : register &&& 1 = 1
      · rw [if_pos odd, if_pos ((low_bit register).mp odd), remainderPolynomial_xor]
        have whole : remainderPolynomial (register >>> 1) + remainderPolynomial polynomial +
            (X ^ 32 + remainderPolynomial (register >>> 1)) = generator := by
          rw [generator_eq]
          linear_combination twice
        exact whole ▸ dvd_rfl
      · rw [if_neg odd, if_neg (mt (low_bit register).mpr odd), zero_add, twice]
        exact dvd_zero generator

theorem remainderPolynomial_byte (byte : UInt8) :
    remainderPolynomial byte.toUInt32 = X ^ 24 * bitsPolynomial (numberBits 8 byte.toNat) := by
  have high : byte.toNat / 2 ^ 8 = 0 := Nat.div_eq_of_lt byte.toNat_lt
  have bits : numberBits 32 byte.toUInt32.toNat =
      numberBits 8 byte.toNat ++ List.replicate 24 false := by
    rw [UInt8.toNat_toUInt32, numberBits_add 8 24, high]
    rfl
  rw [remainderPolynomial, bits, bitsPolynomial_append, bitsPolynomial_replicate_false, add_zero,
    List.length_replicate]

/-- Bytes are divided one after the other, with what is left of those before them in front. -/
theorem generator_dvd_foldl (bytes : Bytes) (register : UInt32) :
    generator ∣ remainderPolynomial (bytes.foldl checksumStep register) +
      (X ^ (8 * bytes.length) * remainderPolynomial register +
        X ^ 32 * bitsPolynomial (bytesBits bytes)) := by
  induction bytes generalizing register with
  | nil =>
      have none : remainderPolynomial register + (X ^ 0 * remainderPolynomial register +
          X ^ 32 * bitsPolynomial []) = 0 := by
        rw [pow_zero, one_mul, bitsPolynomial_nil, mul_zero, add_zero]
        exact CharTwo.add_self_eq_zero _
      exact none ▸ dvd_zero generator
  | cons byte bytes inductionHypothesis =>
      refine generator_dvd_trans (inductionHypothesis _) ?_
      have step := generator_dvd_divideBits 8 (register ^^^ byte.toUInt32)
      rw [remainderPolynomial_xor, remainderPolynomial_byte] at step
      have twice : X ^ 32 * bitsPolynomial (bytesBits bytes) +
          X ^ 32 * bitsPolynomial (bytesBits bytes) = 0 := CharTwo.add_self_eq_zero _
      have whole := Dvd.dvd.mul_left step (X ^ (8 * bytes.length))
      rw [bytesBits_cons, bitsPolynomial_append, length_bytesBits, List.length_cons, checksumStep]
      convert whole using 1
      linear_combination twice

/-! ### Checksums -/

theorem bits_complement (register : UInt32) :
    (numberBits 32 (register ^^^ 0xFFFFFFFF).toNat).map not = numberBits 32 register.toNat := by
  refine List.ext_getElem (by simp) fun index inside _ => ?_
  have small : index < 32 := by simpa using inside
  have ones : Nat.testBit 4294967295 index = true := by
    rw [show 4294967295 = 2 ^ 32 - 1 from rfl, Nat.testBit_two_pow_sub_one]
    exact decide_eq_true small
  simp [numberBits, ones]

theorem isChecksum_checksum (bytes : Bytes) : IsChecksum bytes (checksum bytes) := by
  have divides := generator_dvd_foldl bytes 0xFFFFFFFF
  have ones : remainderPolynomial 0xFFFFFFFF = bitsPolynomial (List.replicate 32 true) := by
    rw [remainderPolynomial]
    congr 1
  rw [ones, add_comm] at divides
  rw [IsChecksum, checksum, bits_complement]
  exact divides

/-- No two numbers are checksums of the same bytes. -/
theorem IsChecksum.unique {bytes : Bytes} {first second : UInt32}
    (isFirst : IsChecksum bytes first) (isSecond : IsChecksum bytes second) : first = second := by
  rw [IsChecksum, add_comm] at isFirst
  have divides := generator_dvd_trans isFirst isSecond
  rw [← bitsPolynomial_zipWith_xor (by simp)] at divides
  have small := degree_bitsPolynomial_lt
    (List.zipWith xor ((numberBits 32 first.toNat).map not) ((numberBits 32 second.toNat).map not))
  have zero : bitsPolynomial (List.zipWith xor ((numberBits 32 first.toNat).map not)
      ((numberBits 32 second.toNat).map not)) = 0 := by
    by_contra nonzero
    refine monic_generator.not_dvd_of_degree_lt nonzero ?_ divides
    rw [degree_generator]
    simpa using small
  have same := bitsPolynomial_eq_zero zero
  refine UInt32.toNat_inj.mp (numberBits_inj first.toNat_lt second.toNat_lt
    (List.ext_getElem (by simp) fun index inside _ => ?_))
  rw [length_numberBits] at inside
  have atIndex := congrArg (·[index]?) same
  rw [List.length_zipWith, List.length_map, List.length_map, length_numberBits, length_numberBits,
    Nat.min_self, List.getElem?_replicate_of_lt inside] at atIndex
  simpa [inside, List.getElem?_zipWith] using atIndex

/-- The checksum of some bytes is the one that is computed. -/
theorem isChecksum_iff {bytes : Bytes} {stated : UInt32} :
    IsChecksum bytes stated ↔ stated = checksum bytes :=
  ⟨fun isChecksum => isChecksum.unique (isChecksum_checksum bytes),
    fun same => same ▸ isChecksum_checksum bytes⟩

example : checksum [0x31, 0x32, 0x33, 0x34, 0x35, 0x36, 0x37, 0x38, 0x39] = 0xCBF43926 := by
  decide +kernel

end Stackwatch.Gzip
