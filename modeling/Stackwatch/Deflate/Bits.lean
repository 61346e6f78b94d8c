import Stackwatch.Input

/-!
# Bits of a compressed stream

Compressed data is a sequence of bits, the lowest bit of each byte first. Some parts start at a byte
boundary, so a `BitInput` keeps the bits left of the current byte apart from the bytes behind it.
-/

namespace Stackwatch.Deflate

/-- Why compressed data has no contents. -/
inductive Fault where
  /-- The data ends before its last block does. -/
  | incomplete
  | corrupt
  deriving DecidableEq, Repr, Inhabited

abbrev Read (α : Type) := Except Fault α

structure BitInput where
  /-- What is left of the current byte. -/
  pending : List Bool
  rest : Bytes
  deriving DecidableEq, Repr, Inhabited

/-- The eight bits of a byte, lowest first. -/
def byteBits (byte : UInt8) : List Bool :=
  (List.range 8).map fun index => byte.toNat.testBit index

namespace BitInput

def ofBytes (bytes : Bytes) : BitInput := ⟨[], bytes⟩

/-- All bits still to be read. -/
def toBits (input : BitInput) : List Bool := input.pending ++ input.rest.flatMap byteBits

def next? : BitInput → Option (Bool × BitInput)
  | ⟨bit :: pending, rest⟩ => some (bit, ⟨pending, rest⟩)
  | ⟨[], byte :: rest⟩ => some (byte.toNat.testBit 0, ⟨(byteBits byte).tail, rest⟩)
  | ⟨[], []⟩ => none

theorem toBits_of_next? {input rest : BitInput} {bit : Bool}
    (step : input.next? = some (bit, rest)) : input.toBits = bit :: rest.toBits := by
  rcases input with ⟨_ | ⟨first, pending⟩, _ | ⟨byte, bytes⟩⟩ <;>
    simp only [next?, Option.some.injEq, Prod.mk.injEq, reduceCtorEq] at step
  · obtain ⟨rfl, rfl⟩ := step
    simp [toBits, byteBits, List.range, List.range.loop]
  · obtain ⟨rfl, rfl⟩ := step
    simp [toBits]
  · obtain ⟨rfl, rfl⟩ := step
    simp [toBits]

theorem next?_eq_none_iff {input : BitInput} : input.next? = none ↔ input.toBits = [] := by
  rcases input with ⟨_ | ⟨first, pending⟩, _ | ⟨byte, bytes⟩⟩ <;>
    simp [next?, toBits, byteBits, List.range, List.range.loop]

/-- The number written in the next `count` bits, lowest first. -/
def readNumber : (count : Nat) → BitInput → Read (Nat × BitInput)
  | 0, input => .ok (0, input)
  | count + 1, input =>
      match input.next? with
      | none => .error .incomplete
      | some (bit, rest) => do
          let (high, last) ← readNumber count rest
          .ok (bit.toNat + 2 * high, last)

/-- The whole bytes behind the current one. -/
def aligned (input : BitInput) : Bytes := input.rest

/-- How many bits are left. -/
def size (input : BitInput) : Nat := input.pending.length + 8 * input.rest.length

end BitInput

end Stackwatch.Deflate
