import Stackwatch.Input

/-!
# Checksums

The 32-bit cyclic redundancy check of the gzip envelope: the remainder of the data modulo a fixed
polynomial over two elements, with bits in reversed order and start and end complemented.
-/

namespace Stackwatch.Gzip

/-- The divisor, lowest coefficient at the top, without its leading one. -/
def polynomial : UInt32 := 0xEDB88320

/-- One division step for each of `count` bits. -/
def divideBits : (count : Nat) → UInt32 → UInt32
  | 0, remainder => remainder
  | count + 1, remainder =>
      divideBits count
        (if remainder &&& 1 = 1 then (remainder >>> 1) ^^^ polynomial else remainder >>> 1)

def checksumStep (remainder : UInt32) (byte : UInt8) : UInt32 :=
  divideBits 8 (remainder ^^^ byte.toUInt32)

def checksum (bytes : Bytes) : UInt32 :=
  bytes.foldl checksumStep 0xFFFFFFFF ^^^ 0xFFFFFFFF

end Stackwatch.Gzip
