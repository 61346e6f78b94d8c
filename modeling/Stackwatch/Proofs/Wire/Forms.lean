import Mathlib.Tactic.Ring
import Stackwatch.Wire.Field
import Stackwatch.Wire.Writer

/-!
# Written forms

A number may be written in more bytes than it needs, and so may the key of a field. This module says
which bytes are forms of a number or of a key. The readers accept exactly these forms and stop right
behind them, whatever follows, and the writer makes one of them.
-/

namespace Stackwatch

namespace Input

theorem eq_ofBytes (input : Input) : input = .ofBytes input.bytes := ext_bytes rfl

theorem next?_eq_some {input rest : Input} {byte : UInt8}
    (found : input.next? = some (byte, rest)) : input.bytes = byte :: rest.bytes := by
  rw [eq_ofBytes input] at found ⊢
  cases bytes : input.bytes with
  | nil => simp [bytes] at found
  | cons first others =>
      rw [bytes, next?_cons, Option.some.injEq, Prod.mk.injEq] at found
      obtain ⟨rfl, rfl⟩ := found
      rfl

theorem take?_eq_some {input rest : Input} {count : Nat} {front : Bytes}
    (found : input.take? count = some (front, rest)) :
    input.bytes = front ++ rest.bytes ∧ front.length = count := by
  unfold take? at found
  split at found
  · next enough =>
      simp only [Option.some.injEq, Prod.mk.injEq] at found
      obtain ⟨rfl, rfl⟩ := found
      rw [input.size_eq] at enough
      exact ⟨(List.take_append_drop count input.bytes).symm, List.length_take_of_le enough⟩
  · cases found

theorem skip?_eq_some {input rest : Input} {count : Nat} (found : input.skip? count = some rest) :
    ∃ front, input.bytes = front ++ rest.bytes ∧ front.length = count := by
  obtain ⟨⟨front, left⟩, taken, rfl⟩ := Option.map_eq_some_iff.mp found
  exact ⟨front, take?_eq_some taken⟩

end Input

namespace Wire

/-! ### Numbers -/

/-- A number in groups of seven bits, the lowest group first, in at most `limit` bytes. Every byte
    but the last has its top bit set, and of the last byte that is allowed only one bit counts. -/
inductive VarintForm : (limit : Nat) → Bytes → Nat → Prop where
  | last {limit : Nat} {byte : UInt8} (ends : byte.toNat < 128)
      (fits : limit = 0 → byte.toNat ≤ 1) : VarintForm (limit + 1) [byte] byte.toNat
  | more {limit : Nat} {byte : UInt8} {rest : Bytes} {value : Nat} (continues : 128 ≤ byte.toNat)
      (form : VarintForm limit rest value) :
      VarintForm (limit + 1) (byte :: rest) (byte.toNat % 128 + 128 * value)

/-- A number as it is read: in at most ten bytes. -/
abbrev NumberForm : Bytes → Nat → Prop := VarintForm 10

namespace VarintForm

variable {limit number : Nat} {front : Bytes}

theorem ne_nil (form : VarintForm limit front number) : front ≠ [] := by
  cases form <;> exact List.cons_ne_nil _ _

/-- A group of seven bits weighs as much as the number behind it counts for. -/
theorem next_group (shift value group number : Nat) :
    value + group * 2 ^ shift + number * 2 ^ (shift + 7) =
      value + (group + 128 * number) * 2 ^ shift := by
  have weight : 2 ^ (shift + 7) = 128 * 2 ^ shift := by
    rw [Nat.pow_add, Nat.mul_comm]
  rw [weight]
  ring

/-- A form is read to its end and no further. -/
theorem read (form : VarintForm limit front number) (shift value : Nat) (rest : Bytes) :
    readVarintFrom limit shift value (.ofBytes (front ++ rest)) =
      .ok (value + number * 2 ^ shift, .ofBytes rest) := by
  induction form generalizing shift value with
  | @last limit byte ends fits =>
      have small : ¬ (limit = 0 ∧ 1 < byte.toNat) := by
        rintro ⟨zero, large⟩
        exact absurd (fits zero) (Nat.not_le.mpr large)
      simp [readVarintFrom, ends, small, Nat.mod_eq_of_lt ends]
  | @more limit byte others number continues form inductionHypothesis =>
      have unended : ¬ byte.toNat < 128 := Nat.not_lt.mpr continues
      simp only [List.cons_append, readVarintFrom, Input.next?_cons, unended, if_false,
        inductionHypothesis, Nat.pow_eq]
      rw [next_group]

/-- Whatever is read as a number is a form of it. -/
theorem of_read {shift value total : Nat} {input rest : Input}
    (found : readVarintFrom limit shift value input = .ok (total, rest)) :
    ∃ front number, input.bytes = front ++ rest.bytes ∧ VarintForm limit front number ∧
      total = value + number * 2 ^ shift := by
  induction limit generalizing shift value input with
  | zero => cases found
  | succ limit inductionHypothesis =>
      unfold readVarintFrom at found
      split at found
      · cases found
      · next byte after next =>
          have bytes := Input.next?_eq_some next
          simp only [Nat.pow_eq] at found
          split at found
          · next ends =>
              split at found
              · cases found
              · next fits =>
                  simp only [Except.ok.injEq, Prod.mk.injEq] at found
                  obtain ⟨rfl, rfl⟩ := found
                  have form : VarintForm (limit + 1) [byte] byte.toNat :=
                    .last ends fun zero => Nat.not_lt.mp fun large => fits ⟨zero, large⟩
                  exact ⟨[byte], byte.toNat, bytes, form, by rw [Nat.mod_eq_of_lt ends]⟩
          · next unended =>
              obtain ⟨front, number, split, form, sum⟩ := inductionHypothesis found
              have continues : 128 ≤ byte.toNat := Nat.not_lt.mp unended
              refine ⟨byte :: front, _, by rw [bytes, split, List.cons_append],
                .more continues form, ?_⟩
              rw [sum, next_group]

/-- A number below `2 ^ (7 * limit + 1)` has room in `limit + 1` bytes. -/
theorem of_lt (fits : number < 2 ^ (7 * limit + 1)) :
    VarintForm (limit + 1) (writeVarint number) number := by
  induction limit generalizing number with
  | zero =>
      have small : number ≤ 1 := by
        simpa using Nat.le_of_lt_succ fits
      have byte : (UInt8.ofNat number).toNat = number := by
        rw [UInt8.toNat_ofNat']
        omega
      rw [writeVarint, if_pos (by omega)]
      have form : VarintForm 1 [UInt8.ofNat number] (UInt8.ofNat number).toNat :=
        .last (by omega) fun _ => by omega
      rwa [byte] at form
  | succ limit inductionHypothesis =>
      rw [writeVarint]
      split
      · next small =>
          have byte : (UInt8.ofNat number).toNat = number := by
            rw [UInt8.toNat_ofNat']
            omega
          have form : VarintForm (limit + 1 + 1) [UInt8.ofNat number] (UInt8.ofNat number).toNat :=
            .last (by omega) fun impossible => absurd impossible (Nat.succ_ne_zero limit)
          rwa [byte] at form
      · have byte : (UInt8.ofNat (number % 128 + 128)).toNat = number % 128 + 128 := by
          rw [UInt8.toNat_ofNat']
          omega
        have quotient : number / 128 < 2 ^ (7 * limit + 1) := by
          rw [Nat.div_lt_iff_lt_mul (by omega)]
          have weight : 2 ^ (7 * (limit + 1) + 1) = 2 ^ (7 * limit + 1) * 128 := by
            ring
          omega
        have form : VarintForm (limit + 1 + 1)
            (UInt8.ofNat (number % 128 + 128) :: writeVarint (number / 128))
            ((UInt8.ofNat (number % 128 + 128)).toNat % 128 + 128 * (number / 128)) :=
          .more (by omega) (inductionHypothesis quotient)
        have digits : (number % 128 + 128) % 128 + 128 * (number / 128) = number := by
          omega
        rwa [byte, digits] at form

end VarintForm

/-- What the writer makes of a number of 64 bits is a form of it. -/
theorem numberForm_writeVarint {number : Nat} (fits : number < 2 ^ 64) :
    NumberForm (writeVarint number) number := .of_lt fits

theorem readVarint_append {front : Bytes} {number : Nat} (form : NumberForm front number)
    (rest : Bytes) : readVarint (.ofBytes (front ++ rest)) = .ok (number, .ofBytes rest) := by
  simp [readVarint, VarintForm.read form]

theorem numberForm_of_readVarint {input rest : Input} {number : Nat}
    (found : readVarint input = .ok (number, rest)) :
    ∃ front, input.bytes = front ++ rest.bytes ∧ NumberForm front number := by
  obtain ⟨front, total, split, form, sum⟩ := VarintForm.of_read found
  have same : number = total := by
    rw [sum]
    omega
  exact ⟨front, split, same ▸ form⟩

/-! ### Keys -/

/-- The key of a field: its tag and its wire type in one number of at most 32 bits. -/
structure KeyForm (front : Bytes) (key : Key) : Prop where
  form : NumberForm front (8 * key.tag + key.wire.code)
  positive : 0 < key.tag
  small : key.tag < 2 ^ 29

theorem WireType.code_lt (wire : WireType) : wire.code < 8 := by
  cases wire <;> decide

theorem WireType.code_of_ofCode? {code : Nat} {wire : WireType} (found : ofCode? code = some wire) :
    code = wire.code := by
  unfold ofCode? at found
  split at found <;> cases found <;> rfl

theorem KeyForm.ne_nil {front : Bytes} {key : Key} (form : KeyForm front key) : front ≠ [] :=
  VarintForm.ne_nil form.form

theorem readKey_append {front : Bytes} {key : Key} (form : KeyForm front key) (rest : Bytes) :
    readKey (.ofBytes (front ++ rest)) = .ok (key, .ofBytes rest) := by
  have wire := key.wire.code_lt
  have positive := form.positive
  have small : ¬ 2 ^ 32 ≤ 8 * key.tag + key.wire.code := by
    have := form.small
    omega
  have code : (8 * key.tag + key.wire.code) % 8 = key.wire.code := by omega
  have tag : (8 * key.tag + key.wire.code) / 8 = key.tag := by omega
  have known : key.tag ≠ 0 := Nat.pos_iff_ne_zero.mp positive
  simp only [readKey, readVarint_append form.form, bind, Except.bind, Nat.pow_eq, small, if_false,
    code, WireType.ofCode?_code, tag, known]

theorem keyForm_of_readKey {input rest : Input} {key : Key}
    (found : readKey input = .ok (key, rest)) :
    ∃ front, input.bytes = front ++ rest.bytes ∧ KeyForm front key := by
  cases number : readVarint input with
  | error fault => simp [readKey, number, bind, Except.bind] at found
  | ok outcome =>
      obtain ⟨total, after⟩ := outcome
      obtain ⟨front, split, form⟩ := numberForm_of_readVarint number
      simp only [readKey, number, bind, Except.bind, Nat.pow_eq] at found
      split at found
      · cases found
      · next small =>
          split at found
          · cases found
          · next wire code =>
              split at found
              · cases found
              · next known =>
                  simp only [Except.ok.injEq, Prod.mk.injEq] at found
                  obtain ⟨rfl, rfl⟩ := found
                  have sum : 8 * (total / 8) + wire.code = total := by
                    rw [← WireType.code_of_ofCode? code]
                    omega
                  refine ⟨front, split, ?_, Nat.pos_of_ne_zero known, ?_⟩
                  · rwa [sum]
                  · show total / 8 < 2 ^ 29
                    omega

end Wire

end Stackwatch
