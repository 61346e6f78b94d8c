import Stackwatch.Decimal.Shortest
import Stackwatch.Proofs.Decimal.Nearest

/-!
# Shortest decimals are read back

A decimal in the interval of a double is nearer to it than to its neighbours, and so it is read as
that double. The search for the shortest one always finds one: with seventeen digits the decimals
are closer together than the doubles, so that one of the two around a double is in its interval.
-/

namespace Stackwatch.Decimal

/-! ### Intervals -/

/-- How far the numbers that are read as a double reach below it, in quarters of its unit. -/
def quartersBelow (significand : Nat) (exponent : Int) : Nat :=
  if significand = 2 ^ 52 ∧ leastExponent < exponent then 1 else 2

/-- The least number that is read as a double, or the bound of these numbers. -/
def lowEnd (significand : Nat) (exponent : Int) : ℚ :=
  (significand - quartersBelow significand exponent / 4) * 2 ^ exponent

theorem quartersBelow_le (significand : Nat) (exponent : Int) :
    quartersBelow significand exponent ≤ 2 := by
  unfold quartersBelow
  split <;> decide

/-- The greatest number that is read as a double, or the bound of these numbers. -/
def highEnd (significand : Nat) (exponent : Int) : ℚ := (significand + 1 / 2) * 2 ^ exponent

/-- The two powers of which an interval is made up have one denominator. -/
theorem exists_factor (exponent place : Int) :
    ∃ factor : ℚ, 0 < factor ∧
      (((powerFraction 2 (exponent - 2)).1 * (powerFraction 10 place).2 : Nat) : ℚ) =
        factor * (2 ^ exponent / 4) ∧
      (((powerFraction 2 (exponent - 2)).2 * (powerFraction 10 place).1 : Nat) : ℚ) =
        factor * 10 ^ place := by
  have two := powerFraction_div 2 (exponent - 2)
  have ten := powerFraction_div 10 place
  rw [Nat.cast_ofNat] at two ten
  have down : (0 : ℚ) < (powerFraction 2 (exponent - 2)).2 := by
    exact_mod_cast (Nat.pow_pos two_pos : 0 < 2 ^ _)
  have tenDown : (0 : ℚ) < (powerFraction 10 place).2 := by
    exact_mod_cast (Nat.pow_pos (by decide) : 0 < 10 ^ _)
  have quarter : (2 ^ exponent / 4 : ℚ) = 2 ^ (exponent - 2) := by
    rw [zpow_sub₀ two_ne_zero]
    norm_num
  refine ⟨(powerFraction 2 (exponent - 2)).2 * (powerFraction 10 place).2, mul_pos down tenDown,
    ?_, ?_⟩
  · rw [quarter, ← two, Nat.cast_mul]
    field_simp
  · rw [← ten, Nat.cast_mul]
    field_simp

/-- The numbers of an interval in one unit. -/
theorem exists_scale {significand : Nat} (some : significand ≠ 0) (exponent place : Int) :
    ∃ factor : ℚ, 0 < factor ∧
      (interval significand exponent place).low = factor * lowEnd significand exponent ∧
      (interval significand exponent place).value = factor * (significand * 2 ^ exponent) ∧
      (interval significand exponent place).high = factor * highEnd significand exponent ∧
      (interval significand exponent place).denominator = factor * 10 ^ place := by
  obtain ⟨factor, positive, scale, denominator⟩ := exists_factor exponent place
  refine ⟨factor, positive, ?_, ?_, ?_, denominator⟩
  · have low : (interval significand exponent place).low =
        (4 * significand - quartersBelow significand exponent) *
          ((powerFraction 2 (exponent - 2)).1 * (powerFraction 10 place).2) := rfl
    have below := quartersBelow_le significand exponent
    rw [low, lowEnd, Nat.cast_mul, scale, Nat.cast_sub (by omega)]
    push_cast
    ring
  · unfold interval
    dsimp only
    rw [Nat.cast_mul, scale]
    push_cast
    ring
  · unfold interval highEnd
    dsimp only
    rw [Nat.cast_mul, scale]
    push_cast
    ring

theorem contains_iff {significand : Nat} (some : significand ≠ 0) (exponent place : Int)
    (candidate : Nat) :
    (interval significand exponent place).contains candidate = true ↔
      if significand % 2 = 0 then
        lowEnd significand exponent ≤ candidate * 10 ^ place ∧
          candidate * 10 ^ place ≤ highEnd significand exponent
      else
        lowEnd significand exponent < candidate * 10 ^ place ∧
          candidate * 10 ^ place < highEnd significand exponent := by
  obtain ⟨factor, positive, low, -, high, denominator⟩ := exists_scale some exponent place
  have scaled : ((candidate * (interval significand exponent place).denominator : Nat) : ℚ) =
      factor * (candidate * 10 ^ place) := by
    rw [Nat.cast_mul, denominator, mul_left_comm]
  have closed : (interval significand exponent place).closed = decide (significand % 2 = 0) := rfl
  rw [Interval.contains, closed]
  simp only [decide_eq_true_eq]
  split
  · simp only [Bool.and_eq_true, decide_eq_true_eq]
    rw [← Nat.cast_le (α := ℚ), ← Nat.cast_le (α := ℚ), low, high, scaled,
      mul_le_mul_iff_right₀ positive, mul_le_mul_iff_right₀ positive]
  · simp only [Bool.and_eq_true, decide_eq_true_eq]
    rw [← Nat.cast_lt (α := ℚ), ← Nat.cast_lt (α := ℚ), low, high, scaled,
      mul_lt_mul_iff_right₀ positive, mul_lt_mul_iff_right₀ positive]

section

variable {significand candidate : Nat} {exponent place : Int}

/-- What lies strictly between the ends is in the interval, whether it contains its ends or not. -/
theorem contains_of_lt (some : significand ≠ 0)
    (low : lowEnd significand exponent < candidate * 10 ^ place)
    (high : candidate * 10 ^ place < highEnd significand exponent) :
    (interval significand exponent place).contains candidate = true := by
  rw [contains_iff some]
  split
  · exact ⟨low.le, high.le⟩
  · exact ⟨low, high⟩

/-- The numbers in the interval of a double are nearer to it than to its neighbours. -/
theorem near_of_contains (some : significand ≠ 0)
    (contains : (interval significand exponent place).contains candidate = true) :
    Near (candidate * 10 ^ place) significand exponent := by
  have unit : (0 : ℚ) < 2 ^ exponent := by positivity
  have below : (quartersBelow significand exponent : ℚ) ≤ 2 := by
    exact_mod_cast quartersBelow_le significand exponent
  rw [contains_iff some] at contains
  have within : lowEnd significand exponent ≤ candidate * 10 ^ place ∧
      candidate * 10 ^ place ≤ highEnd significand exponent := by
    split at contains
    · exact contains
    · exact ⟨contains.1.le, contains.2.le⟩
  have low : (significand - quartersBelow significand exponent / 4 : ℚ) ≤
      candidate * 10 ^ place / 2 ^ exponent := (le_div_iff₀ unit).mpr within.1
  refine ⟨⟨by linarith, (div_le_iff₀ unit).mpr within.2, fun tie => ?_⟩, fun power coarse => ?_⟩
  · by_contra odd
    rw [if_neg odd] at contains
    have above := (lt_div_iff₀ unit).mpr contains.1
    have less := (div_lt_iff₀ unit).mpr contains.2
    rcases tie with same | same <;> linarith
  · have one : quartersBelow significand exponent = 1 := if_pos ⟨power, coarse⟩
    rw [one] at low
    exact_mod_cast low

end

/-! ### The search -/

theorem roundDiv_eq (numerator denominator : Nat) :
    roundDiv numerator denominator = numerator / denominator ∨
      roundDiv numerator denominator = numerator / denominator + 1 := by
  simp only [roundDiv]
  split
  · exact .inl rfl
  · split
    · exact .inr rfl
    · split
      · exact .inl rfl
      · exact .inr rfl

/-- What is picked from an interval is in it. -/
theorem Interval.contains_of_pick? {interval : Interval} {candidate : Nat}
    (picked : interval.pick? = some candidate) : interval.contains candidate = true := by
  unfold Interval.pick? at picked
  dsimp only at picked
  split at picked
  · next floor next =>
      cases picked
      rcases roundDiv_eq interval.value interval.denominator with same | same
      · rw [same, floor]
      · rw [same, next]
  · next floor _ =>
      cases picked
      exact floor
  · next _ next =>
      cases picked
      exact next
  · cases picked

/-- Something is picked if one of the whole numbers around the value is in the interval. -/
theorem Interval.exists_of_pick? {interval : Interval}
    (contains : interval.contains (interval.value / interval.denominator) = true ∨
      interval.contains (interval.value / interval.denominator + 1) = true) :
    ∃ candidate, interval.pick? = some candidate := by
  unfold Interval.pick?
  dsimp only
  split
  · exact ⟨_, rfl⟩
  · exact ⟨_, rfl⟩
  · exact ⟨_, rfl⟩
  · next noFloor noNext =>
      rw [noFloor, noNext] at contains
      rcases contains with impossible | impossible <;> cases impossible

/-- The search stops at a decimal in the interval of the double, unless it finds none at any of the
    places that it tries. -/
theorem near_searchFrom {significand : Nat} {exponent : Int} (some : significand ≠ 0) {tries : Nat}
    {place : Int} {candidate : Nat}
    (last : (interval significand exponent (place - tries)).pick? = .some candidate) :
    Near ((searchFrom significand exponent (tries + 1) place).coefficient *
      10 ^ (searchFrom significand exponent (tries + 1) place).exponent) significand exponent := by
  induction tries generalizing place with
  | zero =>
      rw [Nat.cast_zero, sub_zero] at last
      simp only [searchFrom, last]
      exact near_of_contains some (Interval.contains_of_pick? last)
  | succ tries inductionHypothesis =>
      rw [searchFrom]
      split
      · next coefficient picked =>
          exact near_of_contains some (Interval.contains_of_pick? picked)
      · refine inductionHypothesis ?_
        rwa [Nat.cast_succ, add_comm, ← sub_sub] at last

/-! ### Seventeen digits -/

theorem le_of_digitCount {number : Nat} (some : number ≠ 0) :
    10 ^ (digitCount number - 1) ≤ number := by
  unfold digitCount
  have positive : 0 < (Nat.toDigits 10 number).length := Nat.length_toDigits_pos
  rcases Nat.eq_zero_or_pos ((Nat.toDigits 10 number).length - 1) with one | more
  · rw [one]
    exact Nat.one_le_iff_ne_zero.mpr some
  · by_contra less
    have short := (Nat.length_toDigits_le_iff (by decide) more).mpr (Nat.lt_of_not_le less)
    omega

/-- Digits are counted after a shift that leaves some digits before the point. -/
theorem zpow_digitCount_le {numerator denominator shift : Nat} (positive : 0 < denominator)
    (enough : denominator ≤ numerator * Nat.pow 10 shift) :
    (10 : ℚ) ^ ((digitCount (numerator * Nat.pow 10 shift / denominator) : Int) - (shift + 1)) ≤
      numerator / denominator := by
  rw [Nat.pow_eq] at enough ⊢
  have whole : numerator * 10 ^ shift / denominator ≠ 0 := (Nat.div_pos enough positive).ne'
  have count := le_of_digitCount whole
  have digits : 0 < digitCount (numerator * 10 ^ shift / denominator) := Nat.length_toDigits_pos
  have bound : (10 : ℚ) ^ ((digitCount (numerator * 10 ^ shift / denominator) : Int) - 1) ≤
      numerator / denominator * 10 ^ (shift : Int) := by
    calc (10 : ℚ) ^ ((digitCount (numerator * 10 ^ shift / denominator) : Int) - 1)
        = (10 ^ (digitCount (numerator * 10 ^ shift / denominator) - 1) : Nat) := by
          rw [Nat.cast_pow, ← zpow_natCast, Nat.cast_sub digits]
          norm_cast
      _ ≤ (numerator * 10 ^ shift / denominator : Nat) := Nat.cast_le.mpr count
      _ ≤ (numerator * 10 ^ shift : Nat) / denominator := Nat.cast_div_le
      _ = numerator / denominator * 10 ^ (shift : Int) := by
          push_cast
          rw [zpow_natCast]
          ring
  rw [show ((digitCount (numerator * 10 ^ shift / denominator) : Int) - (shift + 1)) =
    (digitCount (numerator * 10 ^ shift / denominator) : Int) - 1 - shift by ring,
    zpow_sub₀ (by norm_num), div_le_iff₀ (by positivity)]
  exact bound

section

variable {significand : Nat} {exponent : Int}

/-- A double is not less than the power of ten of its first digit. -/
theorem leadingPlace_le (parts : Parts significand exponent) (some : significand ≠ 0) :
    (10 : ℚ) ^ leadingPlace significand exponent ≤ significand * 2 ^ exponent := by
  have power := powerFraction_div 2 exponent
  rw [Nat.cast_ofNat] at power
  have down : 0 < (powerFraction 2 exponent).2 := Nat.pow_pos two_pos
  have up : 0 < (powerFraction 2 exponent).1 := Nat.pow_pos two_pos
  have enough : (powerFraction 2 exponent).2 ≤
      significand * (powerFraction 2 exponent).1 * Nat.pow 10 400 := by
    have least : leastExponent ≤ exponent := parts.least
    calc (powerFraction 2 exponent).2 = 2 ^ (-exponent).toNat := rfl
      _ ≤ 2 ^ 1074 := Nat.pow_le_pow_right two_pos (by unfold leastExponent at least; omega)
      _ ≤ Nat.pow 10 400 := by decide +kernel
      _ ≤ significand * (powerFraction 2 exponent).1 * Nat.pow 10 400 :=
        Nat.le_mul_of_pos_left _ (Nat.mul_pos (Nat.pos_of_ne_zero some) up)
  have leading := zpow_digitCount_le down enough
  rw [Nat.cast_mul, mul_div_assoc, power] at leading
  exact leading

/-- The value of a double lies between two neighbouring decimals. -/
theorem between_decimals (some : significand ≠ 0) (exponent place : Int) :
    let floor := (interval significand exponent place).value /
      (interval significand exponent place).denominator
    (floor : ℚ) * 10 ^ place ≤ significand * 2 ^ exponent ∧
      (significand * 2 ^ exponent : ℚ) < (floor + 1 : Nat) * 10 ^ place := by
  intro floor
  obtain ⟨factor, positive, -, value, -, denominator⟩ := exists_scale some exponent place
  have divides : 0 < (interval significand exponent place).denominator :=
    Nat.mul_pos (Nat.pow_pos two_pos) (Nat.pow_pos (by decide))
  constructor
  · have low : ((floor * (interval significand exponent place).denominator : Nat) : ℚ) ≤
        (interval significand exponent place).value := Nat.cast_le.mpr (Nat.div_mul_le_self _ _)
    rw [Nat.cast_mul, value, denominator, mul_left_comm] at low
    exact (mul_le_mul_iff_right₀ positive).mp low
  · have high : ((interval significand exponent place).value : ℚ) <
        ((floor + 1) * (interval significand exponent place).denominator : Nat) :=
      Nat.cast_lt.mpr (Nat.lt_mul_of_div_lt (Nat.lt_succ_self _) divides)
    rw [Nat.cast_mul, value, denominator, mul_left_comm _ factor (10 ^ place)] at high
    exact (mul_lt_mul_iff_right₀ positive).mp high

theorem lowEnd_lt (significand : Nat) (exponent : Int) :
    lowEnd significand exponent < significand * 2 ^ exponent := by
  refine mul_lt_mul_of_pos_right ?_ (by positivity)
  have below : 0 < quartersBelow significand exponent := by
    unfold quartersBelow
    split <;> decide
  have belowCast : (0 : ℚ) < quartersBelow significand exponent := Nat.cast_pos.mpr below
  linarith

/-- With seventeen digits there is a decimal in the interval. -/
theorem exists_pick? (parts : Parts significand exponent) (some : significand ≠ 0) :
    ∃ candidate, (interval significand exponent (leadingPlace significand exponent - 16)).pick? =
      .some candidate := by
  have leading := leadingPlace_le parts some
  have fine : (10 : ℚ) ^ (leadingPlace significand exponent - 16) * 10 ^ 16 ≤
      significand * 2 ^ exponent := by
    rw [zpow_sub₀ (by norm_num), ← zpow_natCast (10 : ℚ) 16]
    rwa [Nat.cast_ofNat, div_mul_cancel₀ _ (by positivity)]
  obtain ⟨floor, next⟩ :=
    between_decimals some exponent (leadingPlace significand exponent - 16)
  generalize leadingPlace significand exponent - 16 = place at *
  refine Interval.exists_of_pick? ?_
  generalize (interval significand exponent place).value /
    (interval significand exponent place).denominator = whole at floor next ⊢
  have unit : (0 : ℚ) < 2 ^ exponent := by positivity
  rcases Nat.lt_or_ge (2 ^ 52) significand with large | small
  · have two : quartersBelow significand exponent = 2 := if_neg fun power => large.ne' power.1
    have fits : (significand : ℚ) < 2 ^ 53 := by exact_mod_cast parts.fits
    have step : (10 : ℚ) ^ place < 2 ^ exponent := by nlinarith
    have low : lowEnd significand exponent = significand * 2 ^ exponent - 2 ^ exponent / 2 := by
      rw [lowEnd, two]
      push_cast
      ring
    have high : highEnd significand exponent = significand * 2 ^ exponent + 2 ^ exponent / 2 := by
      rw [highEnd]
      ring
    rcases lt_or_ge (lowEnd significand exponent) (whole * 10 ^ place) with near | far
    · left
      exact contains_of_lt some near (by linarith)
    · right
      refine contains_of_lt some ((lowEnd_lt significand exponent).trans next) ?_
      push_cast
      linarith
  · right
    have fits : (significand : ℚ) ≤ 2 ^ 52 := by exact_mod_cast small
    have step : (10 : ℚ) ^ place < 2 ^ exponent / 2 := by nlinarith
    refine contains_of_lt some ((lowEnd_lt significand exponent).trans next) ?_
    rw [highEnd]
    push_cast
    linarith

theorem near_shortest (parts : Parts significand exponent) (some : significand ≠ 0) :
    Near ((shortest significand exponent).coefficient *
      10 ^ (shortest significand exponent).exponent) significand exponent := by
  obtain ⟨candidate, picked⟩ := exists_pick? parts some
  exact near_searchFrom some picked

end

end Stackwatch.Decimal
