import Stackwatch.Input
import Stackwatch.Wire.Fault

/-!
# Variable-length integers

An integer is written in groups of seven bits, lowest first, and every byte but the last has its top
bit set. Longer forms than needed are read too, but never more than ten bytes, of which the tenth
can only add the topmost bit.
-/

namespace Stackwatch.Wire

/-- Reads up to `bytesLeft` more bytes; `shift` is the weight of the next seven bits. -/
def readVarintFrom : (bytesLeft shift value : Nat) → Input → Read (Nat × Input)
  | 0, _, _, _ => fail .invalidVarint
  | bytesLeft + 1, shift, value, input =>
      match input.next? with
      | none => fail .invalidVarint
      | some (byte, rest) =>
          let total := value + (byte.toNat % 128) * Nat.pow 2 shift
          if byte.toNat < 128 then
            if bytesLeft = 0 ∧ 1 < byte.toNat then fail .invalidVarint else .ok (total, rest)
          else
            readVarintFrom bytesLeft (shift + 7) total rest

/-- An unsigned integer below `2 ^ 64`. -/
def readVarint (input : Input) : Read (Nat × Input) := readVarintFrom 10 0 0 input

/-- The signed integer with the same 64 bits. -/
def signed64 (value : Nat) : Int := Int.bmod value (Nat.pow 2 64)

end Stackwatch.Wire
