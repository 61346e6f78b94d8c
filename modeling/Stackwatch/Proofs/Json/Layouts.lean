import Stackwatch.Proofs.Json.Numbers

/-!
# How numbers are laid out

A whole number is laid out with its digits alone. A double is laid out with the digits of its
shortest decimal, in full or with an exponent; either way the text says the same decimal, and so it
is read as the double that was written.
-/

namespace Stackwatch.Json

open Decimal (Parts Numeral)
open Grammar (Digits Whole)

/-! ### Digits -/

theorem digitsValue_eq (digits : List Char) : digitsValue digits = Nat.ofDigitChars 10 digits 0 :=
  rfl

theorem digitsValue_append_zeros (digits : List Char) (count : Nat) :
    digitsValue (digits ++ List.replicate count '0') = digitsValue digits * 10 ^ count := by
  rw [digitsValue_eq, Nat.ofDigitChars_append, Nat.ofDigitChars_replicate_zero, digitsValue_eq,
    Nat.mul_comm]

theorem digitsValue_zeros_append (count : Nat) (digits : List Char) :
    digitsValue (List.replicate count '0' ++ digits) = digitsValue digits := by
  rw [digitsValue_eq, Nat.ofDigitChars_append, Nat.ofDigitChars_replicate_zero, Nat.mul_zero,
    digitsValue_eq]

/-- Digits that do not start with a zero. -/
structure Significant (digits : List Char) : Prop where
  exists_cons : ∃ first others, digits = first :: others ∧ first ≠ '0'
  all : ∀ char ∈ digits, char.isDigit = true

theorem Significant.whole {digits : List Char} (significant : Significant digits) :
    Whole digits := by
  obtain ⟨⟨first, others, rfl, some⟩, all⟩ := significant
  exact .digits some all

theorem Significant.take {digits : List Char} (significant : Significant digits) {count : Nat}
    (some : 0 < count) : Significant (digits.take count) := by
  obtain ⟨⟨first, others, rfl, notZero⟩, all⟩ := significant
  obtain ⟨fewer, rfl⟩ := Nat.exists_eq_add_of_lt some
  refine ⟨⟨first, others.take fewer, ?_, notZero⟩, fun char member =>
    all char (List.mem_of_mem_take member)⟩
  rw [Nat.zero_add, List.take_succ_cons]

theorem Significant.append_zeros {digits : List Char} (significant : Significant digits)
    (count : Nat) : Significant (digits ++ List.replicate count '0') := by
  obtain ⟨⟨first, others, rfl, notZero⟩, all⟩ := significant
  refine ⟨⟨first, _, List.cons_append, notZero⟩, fun char member => ?_⟩
  rcases List.mem_append.mp member with member | zero
  · exact all char member
  · rw [List.eq_of_mem_replicate zero]
    rfl

theorem isDigit_of_mem_toDigits {number : Nat} :
    ∀ char ∈ Nat.toDigits 10 number, char.isDigit = true :=
  fun _ member => Nat.isDigit_of_mem_toDigits (by decide) (by decide) member

theorem digits_toDigits (number : Nat) : Digits (Nat.toDigits 10 number) :=
  ⟨Nat.toDigits_ne_nil, isDigit_of_mem_toDigits⟩

theorem significant_toDigits {number : Nat} (some : number ≠ 0) :
    Significant (Nat.toDigits 10 number) := by
  refine ⟨?_, isDigit_of_mem_toDigits⟩
  induction number using Nat.strongRecOn with
  | ind number inductionHypothesis =>
      rw [Nat.toDigits_eq_if (by decide)]
      split
      · exact ⟨_, [], rfl, by simpa using some⟩
      · next large =>
          have quotient : number / 10 ≠ 0 := by omega
          obtain ⟨first, others, same, notZero⟩ :=
            inductionHypothesis (number / 10) (by omega) quotient
          exact ⟨first, others ++ [Nat.digitChar (number % 10)], by rw [same, List.cons_append],
            notZero⟩

theorem whole_toDigits (number : Nat) : Whole (Nat.toDigits 10 number) := by
  by_cases zero : number = 0
  · rw [zero, Nat.toDigits_zero]
    exact .zero
  · exact (significant_toDigits zero).whole

/-- The digits of a numeral are those of its coefficient without the zeros at their end. -/
theorem exists_zeros (all : List Char) :
    ∃ count, all = (all.reverse.dropWhile (· == '0')).reverse ++ List.replicate count '0' := by
  have zeros : all.reverse.takeWhile (· == '0') =
      List.replicate (all.reverse.takeWhile (· == '0')).length '0' := by
    refine List.eq_replicate_of_mem fun char member => ?_
    simpa using List.mem_takeWhile_imp member
  refine ⟨(all.reverse.takeWhile (· == '0')).length, ?_⟩
  rw [← List.reverse_replicate, ← zeros, ← List.reverse_append, List.takeWhile_append_dropWhile,
    List.reverse_reverse]

/-- Digits that spell a numeral, the first of them at a place. -/
structure Spells (numeral : Numeral) (digits : List Char) (place : Int) : Prop where
  significant : Significant digits
  value : (digitsValue digits * 10 ^ (place + 1 - digits.length) : ℚ) =
    numeral.coefficient * 10 ^ numeral.exponent

theorem spells_digits {numeral : Numeral} (some : numeral.coefficient ≠ 0) :
    Spells numeral numeral.digits.1 numeral.digits.2 := by
  obtain ⟨count, split⟩ := exists_zeros (Nat.toDigits 10 numeral.coefficient)
  have all := significant_toDigits some
  have coefficient : digitsValue (Nat.toDigits 10 numeral.coefficient) = numeral.coefficient :=
    Nat.ofDigitChars_ten_toDigits
  unfold Numeral.digits
  dsimp only
  generalize (((Nat.toDigits 10 numeral.coefficient).reverse).dropWhile (· == '0')).reverse = digits
    at split ⊢
  rw [split] at all coefficient ⊢
  rw [digitsValue_append_zeros] at coefficient
  refine ⟨⟨?_, fun char member => all.all char (List.mem_append_left _ member)⟩, ?_⟩
  · cases digits with
    | nil =>
        rw [digitsValue_eq, Nat.ofDigitChars_nil, Nat.zero_mul] at coefficient
        exact absurd coefficient.symm some
    | cons first others =>
        obtain ⟨head, tail, same, notZero⟩ := all.exists_cons
        rw [List.cons_append, List.cons.injEq] at same
        exact ⟨first, others, rfl, same.1 ▸ notZero⟩
  · have place : numeral.exponent + ((digits ++ List.replicate count '0').length : Nat) - 1 + 1 -
        digits.length = count + numeral.exponent := by
      rw [List.length_append, List.length_replicate]
      push_cast
      ring
    rw [place, ← coefficient, zpow_add₀ (by norm_num), ← mul_assoc, zpow_natCast]
    push_cast
    rfl

/-! ### Whole numbers -/

/-- A whole number has neither a fraction nor an exponent. -/
theorem exists_layout_of_integer (value : Int) :
    ∃ layout : Layout, layout.Proper ∧ integerText value = layout.text ∧
      (isWhole value = true → layout.value = .integer value) := by
  refine ⟨{ negative := decide (value < 0), whole := Nat.toDigits 10 value.natAbs },
    ⟨whole_toDigits _, List.forall_mem_nil _, nofun⟩, ?_, fun fits => ?_⟩
  · simp only [integerText, Layout.text, Layout.fractionText, Layout.exponentText,
      List.isEmpty_nil, if_true, List.append_nil, decide_eq_true_eq]
    split
    · rfl
    · rfl
  · have coefficient : digitsValue (Nat.toDigits 10 value.natAbs ++ []) = value.natAbs := by
      rw [List.append_nil]
      exact Nat.ofDigitChars_ten_toDigits
    have signed : (if decide (value < 0) then -(value.natAbs : Int) else value.natAbs) = value := by
      simp only [decide_eq_true_eq]
      split <;> omega
    have minus : (decide (value < 0) && value.natAbs == 0) = false := by
      rw [Bool.and_eq_false_iff, decide_eq_false_iff_not, beq_eq_false_iff_ne]
      omega
    simp only [Layout.value, Layout.signed, Layout.coefficient, coefficient, Layout.shift?, signed,
      fits, minus]
    rfl

/-! ### Doubles -/

/-- A layout of a positive number that has some digits, the first of which has a place, with a sign
    in front. The point or the exponent tells it from a whole number. -/
structure LaysOut (negative : Bool) (digits : List Char) (place : Int) (text : List Char)
    (layout : Layout) : Prop where
  proper : layout.Proper
  text : layout.text = (if negative then ['-'] else []) ++ text
  sign : layout.negative = negative
  real : layout.fraction ≠ [] ∨ layout.exponent? ≠ none
  decimal : (layout.coefficient * 10 ^ layout.place : ℚ) =
    digitsValue digits * 10 ^ (place + 1 - digits.length)

/-- Zeros up to the point, and one behind it, do not change the value of the digits. -/
theorem value_full (digits : List Char) {place : Int} (large : 0 ≤ place) :
    let whole := (place + 1).toNat
    let padded := digits ++ List.replicate (whole - digits.length) '0'
    let fraction := if (padded.drop whole).isEmpty then ['0'] else padded.drop whole
    (digitsValue (padded.take whole ++ fraction) * 10 ^ (0 - fraction.length : Int) : ℚ) =
      digitsValue digits * 10 ^ (place + 1 - digits.length) := by
  intro whole padded fraction
  rcases Nat.lt_or_ge whole digits.length with long | short
  · have padding : whole - digits.length = 0 := by omega
    have same : padded = digits := by
      unfold padded
      rw [padding, List.replicate_zero, List.append_nil]
    have behind : fraction = digits.drop whole := by
      unfold fraction
      rw [same, if_neg]
      rw [List.isEmpty_iff, List.drop_eq_nil_iff]
      exact not_le.mpr long
    have shift : (0 : Int) - (digits.drop whole).length = place + 1 - digits.length := by
      rw [List.length_drop]
      omega
    rw [behind, same, List.take_append_drop, shift]
  · have length : padded.length = whole := by
      rw [List.length_append, List.length_replicate]
      omega
    have behind : fraction = ['0'] := by
      unfold fraction
      rw [List.drop_eq_nil_of_le length.le]
      rfl
    have shift : place + 1 - digits.length = (whole - digits.length : Nat) := by omega
    rw [behind, List.take_of_length_le length.le, shift, zpow_natCast, List.append_assoc,
      ← List.replicate_one, List.replicate_append_replicate, digitsValue_append_zeros,
      Nat.pow_succ, List.length_replicate]
    push_cast
    norm_num
    ring

section

variable {digits : List Char} (negative : Bool) (significant : Significant digits) {place : Int}

include significant

/-- A number less than one is laid out with zeros behind the point. -/
theorem laysOut_fraction (small : place < 0) :
    LaysOut negative digits place
      ('0' :: '.' :: (List.replicate (-place - 1).toNat '0' ++ digits))
      { negative := negative
        whole := ['0']
        fraction := List.replicate (-place - 1).toNat '0' ++ digits } := by
  obtain ⟨first, others, same, -⟩ := significant.exists_cons
  have some : List.replicate (-place - 1).toNat '0' ++ digits ≠ [] := by
    rw [same]
    exact List.append_ne_nil_of_right_ne_nil _ (List.cons_ne_nil _ _)
  refine ⟨⟨.zero, fun char member => ?_, nofun⟩, ?_, rfl, .inl some, ?_⟩
  · rcases List.mem_append.mp member with zero | member
    · rw [List.eq_of_mem_replicate zero]
      rfl
    · exact significant.all char member
  · simp only [Layout.text, Layout.fractionText, Layout.exponentText, List.isEmpty_iff, some,
      if_false, List.append_nil, List.append_assoc, List.cons_append, List.nil_append]
  · have coefficient : digitsValue (['0'] ++ (List.replicate (-place - 1).toNat '0' ++ digits)) =
        digitsValue digits :=
      digitsValue_zeros_append ((-place - 1).toNat + 1) digits
    have shift : ((0 : Int) - (List.replicate (-place - 1).toNat '0' ++ digits).length) =
        place + 1 - digits.length := by
      rw [List.length_append, List.length_replicate]
      omega
    simp only [Layout.coefficient, Layout.place, Layout.shift?, Option.map_none, Option.getD_none,
      coefficient, shift]

/-- A number up to the last digit before the point is laid out in full. -/
theorem laysOut_full (large : 0 ≤ place) :
    let whole := (place + 1).toNat
    let padded := digits ++ List.replicate (whole - digits.length) '0'
    let fraction := if (padded.drop whole).isEmpty then ['0'] else padded.drop whole
    LaysOut negative digits place (padded.take whole ++ '.' :: fraction)
      { negative := negative, whole := padded.take whole, fraction := fraction } := by
  intro whole padded fraction
  have significantPadded : Significant padded := significant.append_zeros _
  have some : fraction ≠ [] := by
    unfold fraction
    split
    · exact List.cons_ne_nil _ _
    · next some => simpa using some
  refine ⟨⟨(significantPadded.take (by omega)).whole, fun char member => ?_, nofun⟩, ?_, rfl,
    .inl some, ?_⟩
  · unfold fraction at member
    split at member
    · rw [List.mem_singleton.mp member]
      rfl
    · exact significantPadded.all char (List.mem_of_mem_drop member)
  · simp only [Layout.text, Layout.fractionText, Layout.exponentText, List.isEmpty_iff, some,
      if_false, List.append_nil, List.append_assoc]
  · exact value_full digits large

/-- Any other number is laid out with one digit before the point, and an exponent. -/
theorem laysOut_exponent (place : Int) :
    LaysOut negative digits place
      (digits.take 1 ++ (if (digits.drop 1).isEmpty then [] else '.' :: digits.drop 1) ++
        'e' :: (if place < 0 then '-' else '+') :: Nat.toDigits 10 place.natAbs)
      { negative := negative
        whole := digits.take 1
        fraction := digits.drop 1
        exponent? := some (decide (place < 0), Nat.toDigits 10 place.natAbs) } := by
  obtain ⟨⟨first, others, rfl, notZero⟩, all⟩ := significant
  refine ⟨⟨?_, ?_, ?_⟩, ?_, rfl, .inr nofun, ?_⟩
  · exact .digits notZero (List.forall_mem_singleton.mpr (all first List.mem_cons_self))
  · exact fun char member => all char (List.mem_cons_of_mem _ member)
  · rintro _ _ ⟨⟩
    exact digits_toDigits _
  · simp only [Layout.text, Layout.fractionText, Layout.exponentText, List.append_assoc,
      decide_eq_true_eq]
  · have size : digitsValue (Nat.toDigits 10 place.natAbs) = place.natAbs :=
      Nat.ofDigitChars_ten_toDigits
    have shift : (if decide (place < 0) then -(place.natAbs : Int) else place.natAbs) = place := by
      simp only [decide_eq_true_eq]
      split <;> omega
    have last : place - others.length = place + 1 - (first :: others).length := by
      rw [List.length_cons]
      omega
    simp only [Layout.coefficient, Layout.place, Layout.shift?, Option.map_some, Option.getD_some,
      size, shift, List.take_succ_cons, List.take_zero, List.drop_succ_cons, List.drop_zero, last,
      List.cons_append, List.nil_append]

theorem exists_laysOut (place : Int) :
    ∃ layout, LaysOut negative digits place (layoutDigits digits place) layout := by
  unfold layoutDigits
  split
  · split
    · next small => exact ⟨_, laysOut_fraction negative significant small⟩
    · next large => exact ⟨_, laysOut_full negative significant (not_lt.mp large)⟩
  · exact ⟨_, laysOut_exponent negative significant place⟩

end

theorem LaysOut.value {negative : Bool} {digits text : List Char} {place : Int} {layout : Layout}
    (laysOut : LaysOut negative digits place text layout) :
    layout.value =
      .real (negateFloat negative (Decimal.nearest layout.coefficient layout.place)) := by
  have notWhole : (layout.fraction.isEmpty && layout.shift?.isNone) = false := by
    rw [Bool.and_eq_false_iff]
    rcases laysOut.real with fraction | exponent
    · exact .inl (List.isEmpty_eq_false_iff.mpr fraction)
    · right
      obtain ⟨parts, found⟩ := Option.ne_none_iff_exists'.mp exponent
      simp [Layout.shift?, found]
  rw [Layout.value, notWhole, laysOut.sign]
  rfl

/-- A finite double is laid out so that it is read again. -/
theorem exists_layout_of_real {value : Float} {negative : Bool} {significand : Nat}
    {exponent : Int}
    (taken : Decimal.Double.ofFloat value = .finite negative significand exponent)
    (parts : Parts significand exponent) :
    ∃ layout : Layout, layout.Proper ∧ realText value = layout.text ∧
      layout.value = .real (Decimal.Double.finite negative significand exponent).toFloat := by
  unfold realText
  rw [taken]
  dsimp only
  split
  · next zero =>
      have least : exponent = Decimal.leastExponent := by
        refine parts.normal.resolve_left ?_
        rw [zero]
        decide
      refine ⟨{ negative := negative, whole := ['0'], fraction := ['0'] },
        ⟨.zero, List.forall_mem_singleton.mpr rfl, nofun⟩, ?_, ?_⟩
      · cases negative <;> rfl
      · rw [zero, least]
        rfl
  · next some =>
      have near := Decimal.near_shortest parts some
      have spelled := spells_digits (Decimal.coefficient_ne_zero near some)
      obtain ⟨layout, laysOut⟩ := exists_laysOut negative spelled.significant
        (Decimal.shortest significand exponent).digits.2
      refine ⟨layout, laysOut.proper, laysOut.text.symm, ?_⟩
      rw [← spelled.value, ← laysOut.decimal] at near
      rw [laysOut.value, Decimal.nearest_of_near near parts some]
      rfl

end Stackwatch.Json
