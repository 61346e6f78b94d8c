import Stackwatch.Proofs.Deflate.Format

/-!
# Reading bits

A reader that takes some bits and finds a value does so wherever these bits come next, and leaves
the input at the bit behind them. The bits that are left also say how much of the current byte is
left, and which whole bytes are behind it.
-/

namespace Stackwatch.Deflate

variable {α β : Type}

/-! ### Numbers and bytes as bits -/

@[simp]
theorem length_numberBits (width number : Nat) : (numberBits width number).length = width := by
  simp [numberBits]

theorem numberBits_succ (width number : Nat) :
    numberBits (width + 1) number = number.testBit 0 :: numberBits width (number / 2) := by
  simp [numberBits, List.range_succ_eq_map, Function.comp_def, Nat.testBit_succ]

theorem numberBits_add (low high number : Nat) :
    numberBits (low + high) number =
      numberBits low number ++ numberBits high (number / 2 ^ low) := by
  simp [numberBits, List.range_add, Function.comp_def, Nat.testBit_div_two_pow, Nat.add_comm]

/-- Bits above the width of a number do not matter. -/
theorem numberBits_mod (width number : Nat) :
    numberBits width (number % 2 ^ width) = numberBits width number := by
  refine List.map_congr_left fun index member => ?_
  rw [Nat.testBit_mod_two_pow, decide_eq_true (List.mem_range.mp member), Bool.true_and]

theorem numberBits_inj {width first second : Nat} (firstFits : first < 2 ^ width)
    (secondFits : second < 2 ^ width) (same : numberBits width first = numberBits width second) :
    first = second := by
  refine Nat.eq_of_testBit_eq fun index => ?_
  by_cases inside : index < width
  · have := congrArg (·[index]?) same
    simpa [numberBits, inside] using this
  · have wide : 2 ^ width ≤ 2 ^ index := Nat.pow_le_pow_right (by decide) (Nat.not_lt.mp inside)
    rw [Nat.testBit_lt_two_pow (Nat.lt_of_lt_of_le firstFits wide),
      Nat.testBit_lt_two_pow (Nat.lt_of_lt_of_le secondFits wide)]

@[simp]
theorem bytesBits_nil : bytesBits [] = [] := rfl

@[simp]
theorem bytesBits_cons (byte : UInt8) (bytes : Bytes) :
    bytesBits (byte :: bytes) = numberBits 8 byte.toNat ++ bytesBits bytes := rfl

@[simp]
theorem bytesBits_append (first second : Bytes) :
    bytesBits (first ++ second) = bytesBits first ++ bytesBits second := List.flatMap_append

@[simp]
theorem length_bytesBits (bytes : Bytes) : (bytesBits bytes).length = 8 * bytes.length := by
  induction bytes with
  | nil => rfl
  | cons byte bytes inductionHypothesis =>
      rw [bytesBits_cons, List.length_append, inductionHypothesis, length_numberBits,
        List.length_cons]
      omega

/-- What begins with the bits of some bytes begins with these bytes. -/
theorem exists_append_of_bytesBits {bytes front : Bytes} {more : List Bool}
    (begins : bytesBits bytes = bytesBits front ++ more) :
    ∃ others, bytes = front ++ others ∧ bytesBits others = more := by
  induction front generalizing bytes with
  | nil => exact ⟨bytes, rfl, begins⟩
  | cons byte front inductionHypothesis =>
      cases bytes with
      | nil =>
          have := congrArg List.length begins
          simp at this
          omega
      | cons first bytes =>
          rw [bytesBits_cons, bytesBits_cons, List.append_assoc] at begins
          obtain ⟨head, tail⟩ := List.append_inj begins (by simp)
          have same : first = byte :=
            UInt8.toNat_inj.mp (numberBits_inj first.toNat_lt byte.toNat_lt head)
          obtain ⟨others, split, left⟩ := inductionHypothesis tail
          exact ⟨others, by rw [same, split, List.cons_append], left⟩

theorem bytesBits_inj {first second : Bytes} (same : bytesBits first = bytesBits second) :
    first = second := by
  have begins : bytesBits first = bytesBits second ++ [] := by rw [same, List.append_nil]
  obtain ⟨others, split, nothing⟩ := exists_append_of_bytesBits begins
  have length := congrArg List.length nothing
  rw [length_bytesBits, List.length_nil] at length
  have none : others = [] := List.eq_nil_of_length_eq_zero (by omega)
  rw [split, none, List.append_nil]

/-- A number of sixteen bits is two bytes, the lower one first. -/
theorem numberBits_sixteen {number : Nat} (fits : number < 2 ^ 16) :
    ∃ low high : UInt8, numberBits 16 number = bytesBits [low, high] ∧
      low.toNat + 256 * high.toNat = number := by
  refine ⟨UInt8.ofNat number, UInt8.ofNat (number / 256), ?_, ?_⟩
  · rw [numberBits_add 8 8, bytesBits_cons, bytesBits_cons, bytesBits_nil, List.append_nil,
      ← numberBits_mod 8 number, ← numberBits_mod 8 (number / 2 ^ 8)]
    rfl
  · simp only [UInt8.toNat_ofNat']
    omega

/-! ### Inputs -/

namespace BitInput

/-- Less than a whole byte is left of the current byte. -/
def Tidy (input : BitInput) : Prop := input.pending.length < 8

theorem toBits_eq (input : BitInput) : input.toBits = input.pending ++ bytesBits input.rest := rfl

theorem size_eq (input : BitInput) : input.size = input.toBits.length := by
  rw [toBits_eq, List.length_append, length_bytesBits, size]

theorem tidy_ofBytes (bytes : Bytes) : (ofBytes bytes).Tidy := by
  simp [Tidy, ofBytes]

theorem Tidy.next? {input rest : BitInput} {bit : Bool} (tidy : input.Tidy)
    (step : input.next? = some (bit, rest)) : rest.Tidy := by
  rcases input with ⟨_ | ⟨first, pending⟩, _ | ⟨byte, bytes⟩⟩
  · simp [BitInput.next?] at step
  · simp only [BitInput.next?, Option.some.injEq, Prod.mk.injEq] at step
    obtain ⟨-, rfl⟩ := step
    simp [Tidy, byteBits]
  all_goals
    simp only [BitInput.next?, Option.some.injEq, Prod.mk.injEq] at step
    obtain ⟨-, rfl⟩ := step
    exact Nat.lt_of_succ_lt tidy

theorem exists_next? {input : BitInput} (tidy : input.Tidy) {bit : Bool} {more : List Bool}
    (begins : input.toBits = bit :: more) :
    ∃ rest, input.next? = some (bit, rest) ∧ rest.toBits = more ∧ rest.Tidy := by
  cases step : input.next? with
  | none =>
      rw [next?_eq_none_iff.mp step] at begins
      cases begins
  | some found =>
      obtain ⟨first, rest⟩ := found
      have bits := toBits_of_next? step
      rw [begins] at bits
      obtain ⟨rfl, rfl⟩ := List.cons.inj bits
      exact ⟨rest, rfl, rfl, tidy.next? step⟩

/-- The whole bytes behind the current one are those behind its last bits. -/
theorem Tidy.bytesBits_aligned {input : BitInput} (tidy : input.Tidy) {padding more : List Bool}
    (bits : input.toBits = padding ++ more) (short : padding.length < 8)
    (whole : 8 ∣ more.length) : bytesBits input.aligned = more := by
  rw [toBits_eq] at bits
  have sameLength := congrArg List.length bits
  simp only [List.length_append, length_bytesBits] at sameLength
  rw [Tidy] at tidy
  exact (List.append_inj bits (by omega)).2

end BitInput

/-! ### Readers -/

/-- From any input in which these bits come next, `read` takes just them and finds the value. -/
structure Takes (read : BitInput → Read (α × BitInput)) (bits : List Bool) (value : α) : Prop where
  finds : ∀ {input : BitInput} {more : List Bool}, input.Tidy → input.toBits = bits ++ more →
    ∃ rest, read input = .ok (value, rest) ∧ rest.toBits = more ∧ rest.Tidy

theorem takes_nil (value : α) : Takes (fun input => .ok (value, input)) [] value :=
  ⟨fun tidy bits => ⟨_, rfl, bits, tidy⟩⟩

/-- A reader that goes on where another one stops takes the bits of both. -/
theorem Takes.andThen {first : BitInput → Read (α × BitInput)}
    {next whole : BitInput → Read (β × BitInput)} {bits others : List Bool} {value : α} {result : β}
    (takes : Takes first bits value) (takesNext : Takes next others result)
    (goesOn : ∀ input rest, first input = .ok (value, rest) → whole input = next rest) :
    Takes whole (bits ++ others) result := by
  constructor
  intro input more tidy begins
  rw [List.append_assoc] at begins
  obtain ⟨between, found, bitsBetween, tidyBetween⟩ := takes.finds tidy begins
  obtain ⟨rest, foundNext, bitsRest, tidyRest⟩ := takesNext.finds tidyBetween bitsBetween
  exact ⟨rest, (goesOn input between found).trans foundNext, bitsRest, tidyRest⟩

/-- A reader that makes something else of what another one finds takes the same bits. -/
theorem Takes.map {first : BitInput → Read (α × BitInput)} {whole : BitInput → Read (β × BitInput)}
    {bits : List Bool} {value : α} {result : β} (takes : Takes first bits value)
    (makes : ∀ input rest, first input = .ok (value, rest) → whole input = .ok (result, rest)) :
    Takes whole bits result :=
  List.append_nil bits ▸ takes.andThen (takes_nil result) makes

theorem takes_readNumber (width : Nat) {number : Nat} (fits : number < 2 ^ width) :
    Takes (BitInput.readNumber width) (numberBits width number) number := by
  induction width generalizing number with
  | zero =>
      obtain rfl : number = 0 := by simpa using fits
      exact takes_nil 0
  | succ width inductionHypothesis =>
      have half : number / 2 < 2 ^ width := by
        rw [Nat.pow_succ] at fits
        omega
      constructor
      intro input more tidy begins
      rw [numberBits_succ, List.cons_append] at begins
      obtain ⟨between, step, bitsBetween, tidyBetween⟩ := BitInput.exists_next? tidy begins
      obtain ⟨rest, found, bitsRest, tidyRest⟩ :=
        (inductionHypothesis half).finds tidyBetween bitsBetween
      refine ⟨rest, ?_, bitsRest, tidyRest⟩
      have sum : (number.testBit 0).toNat + 2 * (number / 2) = number := by
        rw [Nat.testBit_zero]
        rcases Nat.mod_two_eq_zero_or_one number with even | odd
        · simp [even]
          omega
        · simp [odd]
          omega
      simp only [BitInput.readNumber, step, found, bind, Except.bind, sum]

end Stackwatch.Deflate
