import Mathlib

/-!
# Whole numbers as doubles

A whole number of up to 64 bits becomes a finite double when it is rounded, and the difference of
two such doubles is a number, if not the exact difference. So a difference that is not at most zero
is positive. The bounds on exponents are generous: all that counts is that they stay far from the
greatest one.
-/

namespace Stackwatch.Decimal

open Float.Model (Format UnpackedFloat totalExponent)
open Float.Model.UnpackedFloat

/-- A double that is a number: zero, or finite with an exponent up to a bound. -/
def Below (greatest : Int) : UnpackedFloat → Prop
  | .zero _ => True
  | .finite _ _ exponent _ => exponent ≤ greatest
  | .infinity _ => False
  | .notANumber => False

theorem Below.mono {least greatest : Int} (inOrder : least ≤ greatest) {value : UnpackedFloat}
    (below : Below least value) : Below greatest value := by
  cases value with
  | notANumber => cases below
  | infinity sign => cases below
  | zero sign => trivial
  | finite sign mantissa exponent positive => exact Int.le_trans below inOrder

theorem Below.isNaN {greatest : Int} {value : UnpackedFloat} (below : Below greatest value) :
    value.isNaN = false := by
  cases value with
  | notANumber => cases below
  | _ => rfl

theorem targetExponent_eq (total : Int) :
    Format.binary64.targetExponent total = max (total - 53) (-1074) := rfl

/-! ### Packing -/

theorem below_unpack_packComponents {greatest : Int} (least : -1074 ≤ greatest) (sign : Sign)
    {biased : BitVec 11} (mantissa : BitVec 52) (proper : biased ≠ -1#11)
    (fits : (biased.toNat : Int) - 1075 ≤ greatest) :
    Below greatest
      (unpack Format.binary64 (packComponents Format.binary64 sign biased mantissa)) := by
  unfold unpack
  simp only [unpackMantissa_packComponents, unpackExponent_packComponents]
  rw [if_neg proper]
  split
  · next zero =>
      split
      · trivial
      · subst zero
        exact least
  · exact fits

/-- A finite number is packed into its parts, unless its exponent is too great. -/
theorem pack_finite (sign : Sign) (mantissa : Nat) (exponent : Int) (positive : 0 < mantissa) :
    (971 < exponent ∧
        UnpackedFloat.pack Format.binary64 (.finite sign mantissa exponent positive) =
          packedInfinity Format.binary64 sign) ∨
      ∃ (biased : BitVec 11) (digits : BitVec 52), biased ≠ -1#11 ∧
        (biased.toNat : Int) - 1075 ≤ max exponent (-1075) ∧
        UnpackedFloat.pack Format.binary64 (.finite sign mantissa exponent positive) =
          packComponents Format.binary64 sign biased digits := by
  let biased := (exponent + 1023 + 52).toNat
  have packed : UnpackedFloat.pack Format.binary64 (.finite sign mantissa exponent positive) =
      if 2 ^ 11 ≤ biased + 1 then packedInfinity Format.binary64 sign
      else if mantissa.log2 + 1 = 53 then
        packComponents Format.binary64 sign (BitVec.ofNat 11 biased) (BitVec.ofNat 52 mantissa)
      else packComponents Format.binary64 sign 0#11 (BitVec.ofNat 52 mantissa) := rfl
  rw [packed]
  split
  · exact .inl ⟨by omega, rfl⟩
  · next small =>
      have kept : (BitVec.ofNat 11 biased).toNat = biased := Nat.mod_eq_of_lt (by omega)
      refine .inr ?_
      split
      · refine ⟨BitVec.ofNat 11 biased, BitVec.ofNat 52 mantissa, fun ones => ?_, ?_, rfl⟩
        · rw [ones] at kept
          change 2047 = biased at kept
          omega
        · rw [kept]
          omega
      · exact ⟨0#11, BitVec.ofNat 52 mantissa, by decide, Int.le_max_right _ _, rfl⟩

/-- What packing makes of a number is again a number, with no greater exponent. -/
theorem below_unpack_pack {greatest : Int} (least : -1074 ≤ greatest) (most : greatest ≤ 971)
    {value : UnpackedFloat} (below : Below greatest value) :
    Below greatest (unpack Format.binary64 (UnpackedFloat.pack Format.binary64 value)) := by
  cases value with
  | notANumber => cases below
  | infinity sign => cases below
  | zero sign => cases sign <;> trivial
  | finite sign mantissa exponent positive =>
      have bound : exponent ≤ greatest := below
      rcases pack_finite sign mantissa exponent positive with
        ⟨large, -⟩ | ⟨biased, digits, proper, fits, packed⟩
      · omega
      · rw [packed]
        exact below_unpack_packComponents least sign digits proper (by omega)

/-- Packing takes nothing for a number that is none, and the other way round. -/
theorem isNaN_unpack_pack {value : UnpackedFloat} (proper : value.isNaN = false) :
    (unpack Format.binary64 (UnpackedFloat.pack Format.binary64 value)).isNaN = false := by
  cases value with
  | notANumber => cases proper
  | infinity sign => cases sign <;> rfl
  | zero sign => cases sign <;> rfl
  | finite sign mantissa exponent positive =>
      rcases pack_finite sign mantissa exponent positive with
        ⟨-, packed⟩ | ⟨biased, digits, notOnes, fits, packed⟩
      · rw [packed]
        cases sign <;> rfl
      · rw [packed]
        have below : Below (max exponent (-1074))
            (unpack Format.binary64 (packComponents Format.binary64 sign biased digits)) :=
          below_unpack_packComponents (by omega) sign digits notOnes (by omega)
        exact below.isNaN

/-! ### Rounding -/

theorem mantissa_shiftRight_le (extended : ExtendedMantissa) (count : Nat) :
    (extended >>> count).mantissa ≤ extended.mantissa := by
  induction count with
  | zero => exact Nat.le_refl _
  | succ count inductionHypothesis =>
      exact Nat.le_trans (Nat.div_le_self (extended >>> count).mantissa 2) inductionHypothesis

theorem roundedMantissa_le (extended : ExtendedMantissa) :
    extended.roundedMantissa ≤ extended.mantissa + 1 := by
  have rounds (accuracy : Accuracy) (mantissa : Nat) :
      accuracy.roundToNearestEven mantissa ≤ mantissa + 1 := by
    cases accuracy with
    | exact => exact Nat.le_succ _
    | inexact order =>
        cases order <;> simp only [Accuracy.roundToNearestEven] <;> omega
  exact rounds _ _

/-- Rounding moves the exponent up by no more than the mantissa is long. -/
theorem shiftToTargetExponent_le {bits : Nat} {mantissa : Nat} (fits : mantissa.log2 ≤ bits)
    (exponent : Int) (accuracy : Accuracy) :
    (shiftToTargetExponent Format.binary64 mantissa exponent accuracy).2 ≤
        max exponent (-1074) + bits ∧
      (shiftToTargetExponent Format.binary64 mantissa exponent accuracy).1.mantissa ≤
        mantissa := by
  have start : (ExtendedMantissa.ofMantissaAndAccuracy mantissa accuracy).mantissa = mantissa := by
    cases accuracy with
    | exact => rfl
    | inexact order => cases order <;> rfl
  constructor
  · simp only [shiftToTargetExponent, shiftToExponent, targetExponent_eq, totalExponent]
    omega
  · exact Nat.le_trans (mantissa_shiftRight_le _ _) (Nat.le_of_eq start)

theorem below_roundWithAccuracy {bits : Nat} {mantissa : Nat} (fits : mantissa + 1 < 2 ^ bits)
    (sign : Sign) (exponent : Int) (accuracy : Accuracy) :
    Below (max exponent (-1074) + 2 * bits)
      (roundWithAccuracy Format.binary64 sign mantissa exponent accuracy) := by
  have log2_le {mantissa : Nat} (fits : mantissa < 2 ^ bits) : mantissa.log2 ≤ bits := by
    by_cases zero : mantissa = 0
    · simp [zero]
    · exact Nat.le_of_lt ((Nat.log2_lt zero).mpr fits)
  obtain ⟨first, kept⟩ :=
    shiftToTargetExponent_le (log2_le (Nat.lt_of_succ_lt fits)) exponent accuracy
  let shifted := shiftToTargetExponent Format.binary64 mantissa exponent accuracy
  have rounded : shifted.1.roundedMantissa < 2 ^ bits :=
    Nat.lt_of_le_of_lt (Nat.le_trans (roundedMantissa_le _) (Nat.succ_le_succ kept)) fits
  obtain ⟨second, -⟩ := shiftToTargetExponent_le (log2_le rounded) shifted.2 .exact
  unfold roundWithAccuracy
  dsimp only
  split
  · trivial
  · have start : shifted.2 ≤ _ := first
    refine Int.le_trans second ?_
    omega

theorem below_round {bits : Nat} {mantissa : Nat} (fits : mantissa + 1 < 2 ^ bits) (sign : Sign) :
    Below (2 * (bits + 53))
      (Float.Model.UnpackedFloat.round Format.binary64 sign mantissa 0) := by
  unfold Float.Model.UnpackedFloat.round decreaseExponent
  simp only [targetExponent_eq, totalExponent]
  generalize amountEq : (0 - max ((mantissa.log2 : Int) + 1 + 0 - 53) (-1074)).toNat = amount
  have few : amount ≤ 53 := by omega
  have wide : mantissa <<< amount + 1 < 2 ^ (bits + 53) := by
    calc mantissa <<< amount + 1 ≤ (mantissa + 1) * 2 ^ amount := by
          rw [Nat.shiftLeft_eq, Nat.succ_mul]
          exact Nat.add_le_add_left Nat.one_le_two_pow _
      _ ≤ (mantissa + 1) * 2 ^ 53 :=
          Nat.mul_le_mul_left _ (Nat.pow_le_pow_right (by decide) few)
      _ < 2 ^ bits * 2 ^ 53 := Nat.mul_lt_mul_of_pos_right fits (by decide)
      _ = 2 ^ (bits + 53) := (Nat.pow_add ..).symm
  have below := below_roundWithAccuracy wide sign (0 - amount) .exact
  refine below.mono ?_
  omega

/-- A natural number of up to 64 bits is a double with a small exponent. -/
theorem below_ofNat {number : Nat} (fits : number + 1 < 2 ^ 65) :
    Below 236 (UnpackedFloat.ofNat Format.binary64 number) := by
  have round (sign : Sign) (part : Nat) (same : part = number) :
      Below 236 (Float.Model.UnpackedFloat.round Format.binary64 sign part 0) := by
    subst same
    exact below_round fits sign
  unfold UnpackedFloat.ofNat UnpackedFloat.ofInt UnpackedFloat.normalize
  split
  · next negative => exact absurd (Int.compare_eq_lt.mp negative) (by omega)
  · trivial
  · exact round .positive _ (Int.toNat_natCast number)

/-! ### Whole numbers -/

theorem mantissa_lt_of_unpack {bits : BitVec 64} {sign : Sign} {mantissa : Nat} {exponent : Int}
    {positive : 0 < mantissa}
    (unpacked : unpack Format.binary64 bits = .finite sign mantissa exponent positive) :
    mantissa < 2 ^ 53 := by
  unfold unpack at unpacked
  dsimp only at unpacked
  split at unpacked
  · split at unpacked <;> cases unpacked
  · split at unpacked
    · split at unpacked
      · cases unpacked
      · cases unpacked
        exact Nat.lt_trans (BitVec.isLt _) (by decide)
    · cases unpacked
      exact BitVec.isLt _

/-- Up to 53 bits a number is a product with one, and from there on it is shifted and rounded. -/
theorem toModel_ofNat (number : Nat) :
    (Float.ofNat number).toModel =
      if number < 2 ^ 53 then
        (Float.Model.ofUInt64 number.toUInt64).mul (Float.ofBits 0x3FF0000000000000).toModel
      else Float.Model.ofScientific number 0 := by
  show (Float.ofScientific number false 0).toModel = _
  unfold Float.ofScientific
  by_cases small : number < 2 ^ 53
  · rw [dif_pos ⟨small, Nat.zero_le _⟩, if_pos small]
    rfl
  · rw [dif_neg (fun both => small both.1), if_neg small]
    rfl

/-- A double with the value one. -/
theorem unpack_one :
    (Float.ofBits 0x3FF0000000000000).toModel.unpack =
      .finite .positive (2 ^ 52) (-52) (by decide) := rfl

/-- Without a power of ten nothing is to be done but shifting. -/
theorem ofScientific_zero {number : Nat} (some : number ≠ 0) :
    UnpackedFloat.ofScientific Format.binary64 number 0 =
      roundWithAccuracy Format.binary64 .positive ((number <<< 53) * 1) (-53 + 0) .exact := by
  have notSmall : ¬ (0 : Int) < -((2 ^ 11 : Int) + number.log2) := by omega
  unfold UnpackedFloat.ofScientific
  rw [dif_neg some, if_neg (by decide : ¬ (0 : Int) > 2 ^ 11), if_neg notSmall,
    if_pos (by decide : (0 : Int) ≤ 0)]
  rfl

/-- The product of a number of up to 53 bits and one. -/
theorem below_mul_one {value : UnpackedFloat} (below : Below 236 value)
    (short : ∀ sign mantissa exponent positive,
      value = .finite sign mantissa exponent positive → mantissa < 2 ^ 53) :
    Below 500 (UnpackedFloat.mul Format.binary64 value
      (.finite .positive (2 ^ 52) (-52) (by decide))) := by
  cases value with
  | notANumber => cases below
  | infinity sign => cases below
  | zero sign => trivial
  | finite sign mantissa exponent positive =>
      have bound : exponent ≤ 236 := below
      have fits : mantissa * 2 ^ 52 + 1 < 2 ^ 106 := by
        have := short sign mantissa exponent positive rfl
        omega
      refine (below_roundWithAccuracy fits (sign * .positive) (exponent + -52) .exact).mono ?_
      omega

/-- A natural number of up to 64 bits is a double that is a number. -/
theorem unpack_ofNat {number : Nat} (fits : number < 2 ^ 64) :
    Below 500 (Float.ofNat number).toModel.unpack := by
  rw [toModel_ofNat]
  split
  · have below : Below 236 (Float.Model.ofUInt64 number.toUInt64).unpack :=
      below_unpack_pack (by decide) (by decide)
        (below_ofNat (Nat.lt_trans (Nat.succ_lt_succ number.toUInt64.toNat_lt) (by decide)))
    refine below_unpack_pack (by decide) (by decide) ?_
    rw [unpack_one]
    exact below_mul_one below fun _ _ _ _ => mantissa_lt_of_unpack
  · next large =>
      have some : number ≠ 0 := fun zero => large (by rw [zero]; decide)
      refine below_unpack_pack (by decide) (by decide) ?_
      rw [ofScientific_zero some]
      have shifted : number <<< 53 * 1 + 1 < 2 ^ 118 := by
        rw [Nat.shiftLeft_eq]
        omega
      exact (below_roundWithAccuracy shifted .positive (-53 + 0) .exact).mono (by decide)

theorem below_neg {greatest : Int} {value : UnpackedFloat} (below : Below greatest value) :
    Below greatest value.neg := by
  cases value <;> exact below

/-- A whole number of up to 64 bits is a double that is a number. -/
theorem unpack_ofInt {number : Int} (least : -2 ^ 63 ≤ number) (greatest : number < 2 ^ 63) :
    Below 500 (Float.ofInt number).toModel.unpack := by
  cases number with
  | ofNat number => exact unpack_ofNat (Int.ofNat_lt.mp (Int.lt_trans greatest (by decide)))
  | negSucc number =>
      exact below_unpack_pack (by decide) (by decide) (below_neg (unpack_ofNat (by omega)))

/-! ### Differences -/

theorem isNaN_roundWithAccuracy (sign : Sign) (mantissa : Nat) (exponent : Int)
    (accuracy : Accuracy) :
    (roundWithAccuracy Format.binary64 sign mantissa exponent accuracy).isNaN = false := by
  unfold roundWithAccuracy
  dsimp only
  split <;> rfl

theorem isNaN_sub {greatest : Int} {left right : UnpackedFloat} (belowLeft : Below greatest left)
    (belowRight : Below greatest right) :
    (UnpackedFloat.sub Format.binary64 left right).isNaN = false := by
  have normal (mantissa exponent : Int) (sign : Sign) :
      (UnpackedFloat.normalize Format.binary64 mantissa exponent sign).isNaN = false := by
    unfold UnpackedFloat.normalize
    split
    · exact isNaN_roundWithAccuracy ..
    · rfl
    · exact isNaN_roundWithAccuracy ..
  cases left with
  | notANumber => cases belowLeft
  | infinity sign => cases belowLeft
  | zero sign =>
      cases right with
      | notANumber => cases belowRight
      | infinity other => cases belowRight
      | zero other => cases sign <;> cases other <;> rfl
      | finite other mantissa exponent positive => rfl
  | finite sign mantissa exponent positive =>
      cases right with
      | notANumber => cases belowRight
      | infinity other => cases belowRight
      | zero other => rfl
      | finite other otherMantissa otherExponent otherPositive => exact normal ..

/-- The difference of two whole numbers of up to 64 bits is a number. -/
theorem isNaN_sub_ofInt {left right : Int} (leastLeft : -2 ^ 63 ≤ left)
    (greatestLeft : left < 2 ^ 63) (leastRight : -2 ^ 63 ≤ right)
    (greatestRight : right < 2 ^ 63) :
    (Float.ofInt left - Float.ofInt right).isNaN = false :=
  isNaN_unpack_pack
    (isNaN_sub (unpack_ofInt leastLeft greatestLeft) (unpack_ofInt leastRight greatestRight))

/-- A number is positive exactly if it is not at most zero. -/
theorem not_le_zero_iff {value : Float} (proper : value.isNaN = false) :
    ¬ value ≤ 0.0 ↔ 0.0 < value := by
  have less : 0.0 < value ↔ UnpackedFloat.lt (.zero .positive) value.toModel.unpack = true :=
    decide_eq_true_iff
  have most : value ≤ 0.0 ↔ UnpackedFloat.le value.toModel.unpack (.zero .positive) = true :=
    decide_eq_true_iff
  have number : value.toModel.unpack.isNaN = false := proper
  rw [less, most]
  generalize value.toModel.unpack = unpacked at number ⊢
  cases unpacked with
  | notANumber => cases number
  | infinity sign => cases sign <;> decide
  | zero sign => cases sign <;> decide
  | finite sign mantissa exponent positive =>
      cases sign <;> simp [UnpackedFloat.lt, UnpackedFloat.le, UnpackedFloat.compare]

theorem sub_self_unpacked {greatest : Int} {value : UnpackedFloat}
    (below : Below greatest value) :
    UnpackedFloat.sub Format.binary64 value value = .zero .positive := by
  cases value with
  | notANumber => cases below
  | infinity sign => cases below
  | zero sign => cases sign <;> rfl
  | finite sign mantissa exponent positive => simp [UnpackedFloat.sub, UnpackedFloat.normalize]

/-- Nothing is left of a number when it is taken away from itself. -/
theorem not_pos_sub_self {greatest : Int} {value : Float}
    (below : Below greatest value.toModel.unpack) : ¬ 0.0 < value - value := by
  have less : 0.0 < value - value ↔
      UnpackedFloat.lt (.zero .positive) (value - value).toModel.unpack = true :=
    decide_eq_true_iff
  have zero : (value - value).toModel.unpack =
      unpack Format.binary64 (pack Format.binary64 (.zero .positive)) :=
    congrArg (fun result => unpack Format.binary64 (pack Format.binary64 result))
      (sub_self_unpacked below)
  rw [less, zero]
  decide

end Stackwatch.Decimal
