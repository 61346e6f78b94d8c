import Stackwatch.Proofs.Decimal.Parts

/-!
# The nearest double

A decimal is read as the double that is nearest to it. Here this is said with exact fractions: what
lies nearer to a double than to its neighbours is read as that double. The reader guesses the
exponent from the lengths of numerator and denominator, and so it may be off; the proof goes through
the guesses that are possible.
-/

namespace Stackwatch.Decimal

/-! ### Rounding -/

/-- A whole number is nearest to a fraction; if two are equally near, it is the even one. -/
structure Rounds (value : ℚ) (whole : Nat) : Prop where
  low : whole - 1 / 2 ≤ value
  high : value ≤ whole + 1 / 2
  even : value = whole - 1 / 2 ∨ value = whole + 1 / 2 → whole % 2 = 0

theorem rounds_roundDiv (numerator : Nat) {denominator : Nat} (positive : 0 < denominator) :
    Rounds (numerator / denominator) (roundDiv numerator denominator) := by
  have positiveCast : (0 : ℚ) < denominator := Nat.cast_pos.mpr positive
  obtain ⟨part, partEq⟩ :
      ∃ part : ℚ, part = (numerator % denominator : Nat) / (denominator : ℚ) := ⟨_, rfl⟩
  have split : (numerator : ℚ) / denominator = (numerator / denominator : Nat) + part := by
    have whole : (numerator : ℚ) =
        denominator * (numerator / denominator : Nat) + (numerator % denominator : Nat) := by
      exact_mod_cast (Nat.div_add_mod numerator denominator).symm
    rw [partEq, eq_comm, ← mul_right_inj' positiveCast.ne', mul_add,
      mul_div_cancel₀ _ positiveCast.ne', mul_div_cancel₀ _ positiveCast.ne', ← whole]
  have nonneg : 0 ≤ part := partEq ▸ by positivity
  have less : part < 1 := by
    rw [partEq, div_lt_one positiveCast]
    exact Nat.cast_lt.mpr (Nat.mod_lt numerator positive)
  have below_half : 2 * (numerator % denominator) < denominator ↔ part < 1 / 2 := by
    rw [partEq, div_lt_div_iff₀ positiveCast two_pos, ← Nat.cast_lt (α := ℚ)]
    push_cast
    constructor <;> intro <;> linarith
  have above_half : denominator < 2 * (numerator % denominator) ↔ 1 / 2 < part := by
    rw [partEq, div_lt_div_iff₀ two_pos positiveCast, ← Nat.cast_lt (α := ℚ)]
    push_cast
    constructor <;> intro <;> linarith
  rw [split]
  simp only [roundDiv, below_half, above_half]
  split
  · exact ⟨by linarith, by linarith, by rintro (same | same) <;> linarith⟩
  · split
    · refine ⟨?_, ?_, ?_⟩
      · push_cast; linarith
      · push_cast; linarith
      · push_cast; rintro (same | same) <;> linarith
    · split
      · next even => exact ⟨by linarith, by linarith, fun _ => even⟩
      · refine ⟨?_, ?_, ?_⟩
        · push_cast; linarith
        · push_cast; linarith
        · intro; omega

namespace Rounds

variable {value : ℚ} {whole other : Nat}

theorem le (rounds : Rounds value whole) (roundsOther : Rounds value other) : whole ≤ other := by
  have near : (whole : ℚ) ≤ other + 1 := by linarith [rounds.low, roundsOther.high]
  by_contra greater
  have next : whole = other + 1 := le_antisymm (by exact_mod_cast near) (Nat.lt_of_not_le greater)
  subst next
  have tie : value = other + 1 / 2 := by
    have low := rounds.low
    push_cast at low
    linarith [roundsOther.high]
  have even := rounds.even (.inl (by push_cast; linarith))
  have evenOther := roundsOther.even (.inr tie)
  omega

/-- No fraction is rounded to two whole numbers. -/
theorem unique (rounds : Rounds value whole) (roundsOther : Rounds value other) :
    whole = other :=
  le_antisymm (rounds.le roundsOther) (roundsOther.le rounds)

/-- A fraction that is at most a half below an even number is not rounded below it. -/
theorem le_of_even (rounds : Rounds value whole) {bound : Nat} (even : bound % 2 = 0)
    (near : bound - 1 / 2 ≤ value) : bound ≤ whole := by
  by_contra less
  have below : (whole : ℚ) + 1 ≤ bound := by exact_mod_cast Nat.lt_of_not_le less
  have tie : value = whole + 1 / 2 := by linarith [rounds.high]
  have next : bound = whole + 1 := by
    have : (bound : ℚ) = whole + 1 := by linarith
    exact_mod_cast this
  have evenWhole := rounds.even (.inr tie)
  omega

theorem le_of_lt (rounds : Rounds value whole) {bound : Nat} (less : value < bound) :
    whole ≤ bound := by
  have near : (whole : ℚ) < bound + 1 := by linarith [rounds.low]
  exact Nat.lt_succ_iff.mp (by exact_mod_cast near)

end Rounds

theorem powerFraction_div (base : Nat) (exponent : Int) :
    ((powerFraction base exponent).1 : ℚ) / (powerFraction base exponent).2 =
      (base : ℚ) ^ exponent := by
  simp only [powerFraction, Nat.pow_eq, Nat.cast_pow]
  rcases Int.le_total 0 exponent with nonneg | nonpos
  · rw [Int.toNat_of_nonpos (by omega : -exponent ≤ 0), pow_zero, div_one, ← zpow_natCast,
      Int.toNat_of_nonneg nonneg]
  · rw [Int.toNat_of_nonpos nonpos, pow_zero, one_div, ← zpow_natCast,
      Int.toNat_of_nonneg (by omega), zpow_neg, inv_inv]

/-! ### Nearness -/

/-- A fraction that is nearer to a double than to its neighbours. Below a power of two the
    neighbours are closer than above. -/
structure Near (value : ℚ) (significand : Nat) (exponent : Int) : Prop where
  rounds : Rounds (value / 2 ^ exponent) significand
  close : significand = 2 ^ 52 → leastExponent < exponent →
    significand - 1 / 4 ≤ value / 2 ^ exponent

/-- A fraction in units of a power of two, rounded. -/
def scaled (numerator denominator : Nat) (exponent : Int) : Nat :=
  roundDiv (numerator * (powerFraction 2 exponent).2) (denominator * (powerFraction 2 exponent).1)

theorem rounds_scaled (numerator : Nat) {denominator : Nat} (positive : 0 < denominator)
    (exponent : Int) :
    Rounds ((numerator / denominator : ℚ) / 2 ^ exponent)
      (scaled numerator denominator exponent) := by
  have up : 0 < (powerFraction 2 exponent).1 := Nat.pow_pos two_pos
  have same : (numerator / denominator : ℚ) / 2 ^ exponent =
      ((numerator * (powerFraction 2 exponent).2 : Nat) : ℚ) /
        (denominator * (powerFraction 2 exponent).1 : Nat) := by
    have power := powerFraction_div 2 exponent
    rw [Nat.cast_ofNat] at power
    rw [← power, div_div_div_eq]
    push_cast
    rfl
  rw [same]
  exact rounds_roundDiv _ (Nat.mul_pos positive up)

theorem nearestFraction_eq (numerator denominator : Nat) :
    nearestFraction numerator denominator =
      let estimate : Int := (numerator.log2 : Int) - denominator.log2 - 53
      let first := max leastExponent estimate
      let second := if scaled numerator denominator first < 2 ^ 53 then first else first + 1
      let significand := scaled numerator denominator second
      let (significand, exponent) :=
        if significand = 2 ^ 53 then (2 ^ 52, second + 1) else (significand, second)
      if greatestExponent < exponent then .infinite false else .finite false significand exponent :=
  rfl

/-- Logarithms tell between which powers of two a fraction lies. -/
theorem between_of_log2 {numerator denominator : Nat} (some : numerator ≠ 0)
    (positive : 0 < denominator) :
    (2 : ℚ) ^ ((numerator.log2 : Int) - denominator.log2 - 1) < numerator / denominator ∧
      (numerator / denominator : ℚ) < 2 ^ ((numerator.log2 : Int) - denominator.log2 + 1) := by
  have lowN : (2 : ℚ) ^ (numerator.log2 : Int) ≤ numerator := by
    exact_mod_cast Nat.log2_self_le some
  have highN : (numerator : ℚ) < 2 ^ ((numerator.log2 : Int) + 1) := by
    exact_mod_cast Nat.lt_log2_self (n := numerator)
  have lowD : (2 : ℚ) ^ (denominator.log2 : Int) ≤ denominator := by
    exact_mod_cast Nat.log2_self_le positive.ne'
  have highD : (denominator : ℚ) < 2 ^ ((denominator.log2 : Int) + 1) := by
    exact_mod_cast Nat.lt_log2_self (n := denominator)
  have positiveCast : (0 : ℚ) < denominator := Nat.cast_pos.mpr positive
  constructor
  · calc (2 : ℚ) ^ ((numerator.log2 : Int) - denominator.log2 - 1)
        = 2 ^ (numerator.log2 : Int) / 2 ^ ((denominator.log2 : Int) + 1) := by
          rw [← zpow_sub₀ two_ne_zero]
          congr 1
          ring
      _ < 2 ^ (numerator.log2 : Int) / denominator :=
          div_lt_div_of_pos_left (by positivity) positiveCast highD
      _ ≤ numerator / denominator := div_le_div_of_nonneg_right lowN positiveCast.le
  · calc (numerator / denominator : ℚ)
        < 2 ^ ((numerator.log2 : Int) + 1) / denominator :=
          div_lt_div_of_pos_right highN positiveCast
      _ ≤ 2 ^ ((numerator.log2 : Int) + 1) / 2 ^ (denominator.log2 : Int) :=
          div_le_div_of_nonneg_left (by positivity) (by positivity) lowD
      _ = 2 ^ ((numerator.log2 : Int) - denominator.log2 + 1) := by
          rw [← zpow_sub₀ two_ne_zero]
          congr 1
          ring

/-- The number in units of one power of two less. -/
theorem div_zpow_sub_one (value : ℚ) (exponent : Int) :
    value / 2 ^ (exponent - 1) = 2 * (value / 2 ^ exponent) := by
  rw [zpow_sub_one₀ two_ne_zero]
  field_simp

/-! ### Guessing the exponent -/

section

variable {significand : Nat} {exponent : Int} {value : ℚ}
  (near : Near value significand exponent) (parts : Parts significand exponent)

include near parts

theorem Near.lt : value < 2 ^ (exponent + 53) := by
  have fits : (significand : ℚ) + 1 ≤ 2 ^ 53 := by exact_mod_cast parts.fits
  have unit : (0 : ℚ) < 2 ^ exponent := by positivity
  rw [zpow_add₀ two_ne_zero, ← div_lt_iff₀' unit]
  norm_num at fits ⊢
  linarith [near.rounds.high]

/-- Where there are finer doubles, a number is not much less than the least significand. -/
theorem Near.low (coarse : leastExponent < exponent) : 2 ^ 52 - 1 / 4 ≤ value / 2 ^ exponent := by
  rcases parts.normal with large | least
  · rcases large.eq_or_lt with same | more
    · have close := near.close same.symm coarse
      rw [← same] at close
      exact_mod_cast close
    · have next : (2 ^ 52 : ℚ) + 1 ≤ significand := by exact_mod_cast more
      linarith [near.rounds.low]
  · exact absurd coarse (by omega)

/-- With an exponent that is too small by one, the significand has more than 53 bits. -/
theorem Near.one_below (coarse : leastExponent < exponent) {whole : Nat}
    (rounds : Rounds (value / 2 ^ (exponent - 1)) whole) : 2 ^ 53 ≤ whole := by
  have low := near.low parts coarse
  refine rounds.le_of_even (by decide) ?_
  rw [div_zpow_sub_one]
  norm_num at low ⊢
  linarith

/-- And so it has if the exponent is too small by two. -/
theorem Near.two_below (coarse : leastExponent < exponent) {whole : Nat}
    (rounds : Rounds (value / 2 ^ (exponent - 1 - 1)) whole) : 2 ^ 53 ≤ whole := by
  have low := near.low parts coarse
  refine rounds.le_of_even (by decide) ?_
  rw [div_zpow_sub_one, div_zpow_sub_one]
  norm_num at low ⊢
  linarith

/-- A number between two powers of two gives a guess of the exponent. The guess is right, or too
    small by one or two; by two only for numbers below the least significand. -/
theorem Near.guess {size : Int} (above : (2 : ℚ) ^ (size - 1) < value)
    (below : value < 2 ^ (size + 1)) :
    max leastExponent (size - 53) = exponent ∨
      leastExponent < exponent ∧
        (max leastExponent (size - 53) = exponent - 1 ∨
          max leastExponent (size - 53) = exponent - 1 - 1 ∧ value / 2 ^ exponent < 2 ^ 52) := by
  have unit : (0 : ℚ) < 2 ^ exponent := by positivity
  have notAbove : max leastExponent (size - 53) ≤ exponent := by
    have powers := above.trans (near.lt parts)
    rw [zpow_lt_zpow_iff_right₀ one_lt_two] at powers
    exact max_le parts.least (by omega)
  rcases notAbove.eq_or_lt with reached | short
  · exact .inl reached
  · have coarse : leastExponent < exponent := (le_max_left _ _).trans_lt short
    have large : (2 : ℚ) ^ (exponent + 51) < 2 ^ (size + 1) := by
      have low := near.low parts coarse
      refine lt_of_le_of_lt ?_ below
      rw [zpow_add₀ two_ne_zero, ← le_div_iff₀' unit]
      norm_num at low ⊢
      linarith
    rw [zpow_lt_zpow_iff_right₀ one_lt_two] at large
    refine .inr ⟨coarse, ?_⟩
    rcases eq_or_ne (max leastExponent (size - 53)) (exponent - 1) with one | further
    · exact .inl one
    · refine .inr ⟨by omega, (div_lt_iff₀' unit).mpr (below.trans_le ?_)⟩
      calc (2 : ℚ) ^ (size + 1) ≤ 2 ^ (exponent + 52) :=
            zpow_le_zpow_right₀ one_le_two (by omega)
        _ = 2 ^ exponent * 2 ^ 52 := by
            rw [zpow_add₀ two_ne_zero]
            norm_cast

end

/-- A fraction near to a double is read as that double: if the guess of the exponent is too small,
    the rounded numbers tell. -/
theorem nearestFraction_of_near {numerator denominator significand : Nat} {exponent : Int}
    (some : numerator ≠ 0) (positive : 0 < denominator) (parts : Parts significand exponent)
    (near : Near (numerator / denominator) significand exponent) :
    nearestFraction numerator denominator = .finite false significand exponent := by
  rw [nearestFraction_eq]
  have rounds := rounds_scaled numerator positive
  generalize scaled numerator denominator = rounded at rounds ⊢
  obtain ⟨above, below⟩ := between_of_log2 some positive
  generalize (numerator.log2 : Int) - denominator.log2 = size at above below ⊢
  generalize (numerator / denominator : ℚ) = value at *
  have last : rounded exponent = significand := (rounds exponent).unique near.rounds
  have fits : significand ≠ 2 ^ 53 := parts.fits.ne
  have bounded : ¬ greatestExponent < exponent := not_lt.mpr parts.greatest
  dsimp only
  rcases near.guess parts above below with right | ⟨coarse, one | ⟨two, small⟩⟩
  · rw [right, last, if_pos parts.fits, last, if_neg fits]
    exact if_neg bounded
  · have long : ¬ rounded (exponent - 1) < 2 ^ 53 :=
      not_lt.mpr (near.one_below parts coarse (rounds _))
    rw [one, if_neg long, sub_add_cancel, last, if_neg fits]
    exact if_neg bounded
  · -- Here rounding carries, and the power of two is found one exponent below its own.
    have long : ¬ rounded (exponent - 1 - 1) < 2 ^ 53 :=
      not_lt.mpr (near.two_below parts coarse (rounds _))
    have carry : rounded (exponent - 1) = 2 ^ 53 := by
      refine le_antisymm ((rounds _).le_of_lt ?_) (near.one_below parts coarse (rounds _))
      rw [div_zpow_sub_one]
      norm_num at small ⊢
      linarith
    have power : significand = 2 ^ 52 := by
      have atMost : significand ≤ 2 ^ 52 := near.rounds.le_of_lt (by exact_mod_cast small)
      exact le_antisymm atMost (parts.normal.resolve_right coarse.ne')
    rw [two, if_neg long, sub_add_cancel, carry, if_pos rfl, sub_add_cancel, power]
    exact if_neg bounded

/-! ### Decimals -/

section

variable {coefficient significand : Nat} {decimalExponent exponent : Int}
  (near : Near (coefficient * 10 ^ decimalExponent) significand exponent)

include near

theorem coefficient_ne_zero (some : significand ≠ 0) : coefficient ≠ 0 := by
  intro zero
  have low := near.rounds.low
  have one : (1 : ℚ) ≤ significand := by exact_mod_cast Nat.one_le_iff_ne_zero.mpr some
  rw [zero, Nat.cast_zero, zero_mul, zero_div] at low
  linarith

variable (parts : Parts significand exponent)

include parts

theorem decimalExponent_le (some : coefficient ≠ 0) : decimalExponent ≤ 400 := by
  by_contra large
  have one : (1 : ℚ) ≤ coefficient := by exact_mod_cast Nat.one_le_iff_ne_zero.mpr some
  have greatest : exponent ≤ 971 := parts.greatest
  have value : (10 : ℚ) ^ (400 : Int) < 2 ^ (1024 : Int) :=
    calc (10 : ℚ) ^ (400 : Int) ≤ 10 ^ decimalExponent :=
          zpow_le_zpow_right₀ (by norm_num) (by omega)
      _ ≤ coefficient * 10 ^ decimalExponent := le_mul_of_one_le_left (by positivity) one
      _ < 2 ^ (exponent + 53) := near.lt parts
      _ ≤ 2 ^ (1024 : Int) := zpow_le_zpow_right₀ one_le_two (by omega)
  have whole : 10 ^ 400 < 2 ^ 1024 := by exact_mod_cast value
  exact absurd whole (by decide +kernel)

theorem le_decimalExponent (some : significand ≠ 0) :
    -(400 + coefficient.log2 : Int) ≤ decimalExponent := by
  by_contra small
  have half : (1 / 2 : ℚ) ≤ significand - 1 / 2 := by
    have one : (1 : ℚ) ≤ significand := by exact_mod_cast Nat.one_le_iff_ne_zero.mpr some
    linarith
  have digits : (coefficient : ℚ) < 10 ^ ((coefficient.log2 : Int) + 1) :=
    calc (coefficient : ℚ) < 2 ^ ((coefficient.log2 : Int) + 1) := by
          exact_mod_cast Nat.lt_log2_self (n := coefficient)
      _ ≤ 10 ^ ((coefficient.log2 : Int) + 1) := by
          exact_mod_cast Nat.pow_le_pow_left (by decide : 2 ≤ 10) _
  have value : (2 : ℚ) ^ (-1075 : Int) < 10 ^ (-400 : Int) :=
    calc (2 : ℚ) ^ (-1075 : Int) = 1 / 2 * 2 ^ (-1074 : Int) := by
          rw [show (-1075 : Int) = -1074 - 1 by rfl, zpow_sub_one₀ two_ne_zero]
          ring
      _ ≤ (significand - 1 / 2) * 2 ^ exponent := by
          refine mul_le_mul half (zpow_le_zpow_right₀ one_le_two parts.least) (by positivity) ?_
          linarith
      _ ≤ coefficient * 10 ^ decimalExponent :=
          (le_div_iff₀ (by positivity)).mp near.rounds.low
      _ < 10 ^ ((coefficient.log2 : Int) + 1) * 10 ^ decimalExponent :=
          mul_lt_mul_of_pos_right digits (by positivity)
      _ ≤ 10 ^ (-400 : Int) := by
          rw [← zpow_add₀ (by norm_num)]
          exact zpow_le_zpow_right₀ (by norm_num) (by omega)
  rw [zpow_neg, zpow_neg, inv_lt_inv₀ (by positivity) (by positivity)] at value
  have whole : 10 ^ 400 < 2 ^ 1075 := by exact_mod_cast value
  exact absurd whole (by decide +kernel)

/-- A decimal near to a double is read as that double; it is not so far outside the range of doubles
    that its power of ten would not be computed. -/
theorem nearest_of_near (some : significand ≠ 0) :
    nearest coefficient decimalExponent = .finite false significand exponent := by
  have someCoefficient := coefficient_ne_zero near some
  have least := le_decimalExponent near parts some
  have most := decimalExponent_le near parts someCoefficient
  unfold nearest
  rw [if_neg (by omega), if_neg (by omega)]
  have up : (powerFraction 10 decimalExponent).1 ≠ 0 := (Nat.pow_pos (by decide)).ne'
  have down : 0 < (powerFraction 10 decimalExponent).2 := Nat.pow_pos (by decide)
  have power := powerFraction_div 10 decimalExponent
  rw [Nat.cast_ofNat] at power
  have read := nearestFraction_of_near (Nat.mul_ne_zero someCoefficient up) down parts
  rw [Nat.cast_mul, mul_div_assoc, power] at read
  exact read near

end

end Stackwatch.Decimal
