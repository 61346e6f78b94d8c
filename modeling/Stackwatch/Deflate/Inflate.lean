import Stackwatch.Deflate.Code

/-!
# Inflating

Compressed data is a sequence of blocks. A block is stored as it is, or it is a sequence of symbols
of two prefix codes: single bytes, and references that repeat bytes written earlier. A reference may
reach into the bytes that it is itself writing, and before the first byte, where there are zeros.
-/

namespace Stackwatch.Deflate

/-- The two codes of a compressed block. -/
structure BlockCodes where
  literals : Code
  distances : Code
  deriving Repr, Inhabited

/-- For each length symbol from 257 on, the shortest length and the number of bits to add. -/
def lengthTable : List (Nat × Nat) :=
  [(3, 0), (4, 0), (5, 0), (6, 0), (7, 0), (8, 0), (9, 0), (10, 0), (11, 1), (13, 1), (15, 1),
    (17, 1), (19, 2), (23, 2), (27, 2), (31, 2), (35, 3), (43, 3), (51, 3), (59, 3), (67, 4),
    (83, 4), (99, 4), (115, 4), (131, 5), (163, 5), (195, 5), (227, 5), (258, 0)]

/-- For each distance symbol, the shortest distance and the number of bits to add. -/
def distanceTable : List (Nat × Nat) :=
  [(1, 0), (2, 0), (3, 0), (4, 0), (5, 1), (7, 1), (9, 2), (13, 2), (17, 3), (25, 3), (33, 4),
    (49, 4), (65, 5), (97, 5), (129, 6), (193, 6), (257, 7), (385, 7), (513, 8), (769, 8),
    (1025, 9), (1537, 9), (2049, 10), (3073, 10), (4097, 11), (6145, 11), (8193, 12), (12289, 12),
    (16385, 13), (24577, 13)]

/-- The symbol that ends a block. -/
def endOfBlock : Nat := 256

/-- The number a symbol stands for in its table. -/
def readAmount (table : List (Nat × Nat)) (symbol : Nat) (input : BitInput) :
    Read (Nat × BitInput) :=
  match table[symbol]? with
  | none => .error .corrupt
  | some (base, extraBits) => do
      let (extra, rest) ← input.readNumber extraBits
      .ok (base + extra, rest)

/-- Repeats, one by one, the byte written `distance` bytes ago. -/
def copyBack (distance : Nat) : (length : Nat) → Array UInt8 → Array UInt8
  | 0, output => output
  | length + 1, output =>
      let byte := if distance ≤ output.size then output.getD (output.size - distance) 0 else 0
      copyBack distance length (output.push byte)

/-- The symbols of a block up to its end. Every symbol takes at least one bit, so the number of bits
    is fuel enough. -/
def readSymbols (codes : BlockCodes) :
    (fuel : Nat) → Array UInt8 → BitInput → Read (Array UInt8 × BitInput)
  | 0, _, _ => .error .incomplete
  | fuel + 1, output, input => do
      let (symbol, rest) ← codes.literals.read input
      if symbol < endOfBlock then
        readSymbols codes fuel (output.push (UInt8.ofNat symbol)) rest
      else if symbol = endOfBlock then
        .ok (output, rest)
      else
        let (length, rest) ← readAmount lengthTable (symbol - (endOfBlock + 1)) rest
        let (distanceSymbol, rest) ← codes.distances.read rest
        let (distance, rest) ← readAmount distanceTable distanceSymbol rest
        readSymbols codes fuel (copyBack distance length output) rest

/-- The codes of blocks that bring none of their own. -/
def fixedLengths : List Nat × List Nat :=
  (List.replicate 144 8 ++ List.replicate 112 9 ++ List.replicate 24 7 ++ List.replicate 8 8,
    List.replicate 32 5)

def codesOfLengths (lengths : List Nat × List Nat) : Read BlockCodes := do
  let distances ← Code.ofLengths lengths.2
  let literals ← Code.ofLengths lengths.1
  .ok ⟨literals, distances⟩

/-- The order in which the codeword lengths of the length code itself are transmitted. -/
def lengthCodeOrder : List Nat :=
  [16, 17, 18, 0, 8, 7, 9, 6, 10, 5, 11, 4, 12, 3, 13, 2, 14, 1, 15]

/-- Reads `count` numbers of three bits. -/
def readTriples : (count : Nat) → BitInput → Read (List Nat × BitInput)
  | 0, input => .ok ([], input)
  | count + 1, input => do
      let (first, rest) ← input.readNumber 3
      let (others, last) ← readTriples count rest
      .ok (first :: others, last)

/-- The codeword lengths of the symbols 0 to 18, from their transmission order. -/
def lengthCodeLengths (transmitted : List Nat) : List Nat :=
  (List.range 19).map fun symbol =>
    ((lengthCodeOrder.zip transmitted).lookup symbol).getD 0

/-- Codeword lengths up to `total` of them; the last symbols repeat a length. The lengths found so
    far are given latest first. -/
def readLengths (code : Code) (total : Nat) :
    (fuel : Nat) → (found : List Nat) → BitInput → Read (List Nat × BitInput)
  | 0, _, _ => .error .incomplete
  | fuel + 1, found, input =>
      if total < found.length then
        .error .corrupt
      else if found.length = total then
        .ok (found.reverse, input)
      else do
        let (symbol, rest) ← code.read input
        if symbol < 16 then
          readLengths code total fuel (symbol :: found) rest
        else
          let (repeated, bits, least) ←
            match symbol, found with
            | 16, latest :: _ => .ok (latest, 2, 3)
            | 16, [] => .error .corrupt
            | 17, _ => .ok (0, 3, 3)
            | _, _ => .ok (0, 7, 11)
          let (extra, rest) ← rest.readNumber bits
          readLengths code total fuel (List.replicate (least + extra) repeated ++ found) rest

/-- The codes at the start of a block that brings its own. -/
def readCodes (input : BitInput) : Read (BlockCodes × BitInput) := do
  let (moreLiterals, rest) ← input.readNumber 5
  let (moreDistances, rest) ← rest.readNumber 5
  let (moreLengthCodes, rest) ← rest.readNumber 4
  let literalCount := moreLiterals + 257
  let distanceCount := moreDistances + 1
  if 286 < literalCount ∨ 30 < distanceCount then
    .error .corrupt
  else
    let (transmitted, rest) ← readTriples (moreLengthCodes + 4) rest
    let lengthCode ← Code.ofCompleteLengths (lengthCodeLengths transmitted)
    let total := literalCount + distanceCount
    let (lengths, rest) ← readLengths lengthCode total (total + 1) [] rest
    let codes ← codesOfLengths (lengths.splitAt literalCount)
    .ok (codes, rest)

/-- A stored block: its length, the complement of it, and the bytes. -/
def readStored (output : Array UInt8) (input : BitInput) : Read (Array UInt8 × BitInput) :=
  match input.aligned with
  | low :: high :: lowComplement :: highComplement :: rest =>
      let length := low.toNat + 256 * high.toNat
      if length + (lowComplement.toNat + 256 * highComplement.toNat) = 65535 then
        let chunk := rest.take length
        if chunk.length < length then
          .error .incomplete
        else
          .ok (output ++ chunk.toArray, .ofBytes (rest.drop length))
      else
        .error .corrupt
  | _ => .error .incomplete

/-- One block. -/
def readBlock (output : Array UInt8) (input : BitInput) : Read (Array UInt8 × BitInput) := do
  let (kind, rest) ← input.readNumber 2
  match kind with
  | 0 => readStored output rest
  | 1 =>
      let codes ← codesOfLengths fixedLengths
      readSymbols codes (rest.size + 1) output rest
  | 2 =>
      let (codes, rest) ← readCodes rest
      readSymbols codes (rest.size + 1) output rest
  | _ => .error .corrupt

/-- Blocks up to the one that is marked as the last. -/
def readBlocks : (fuel : Nat) → Array UInt8 → BitInput → Read (Array UInt8 × BitInput)
  | 0, _, _ => .error .incomplete
  | fuel + 1, output, input => do
      let (final, rest) ← input.readNumber 1
      let (output, rest) ← readBlock output rest
      if final = 1 then .ok (output, rest) else readBlocks fuel output rest

/-- The contents of compressed data, and the bytes behind it. -/
def inflate (bytes : Bytes) : Read (Bytes × Bytes) := do
  let input := BitInput.ofBytes bytes
  let (output, rest) ← readBlocks (input.size + 1) #[] input
  .ok (output.toList, rest.aligned)

end Stackwatch.Deflate
