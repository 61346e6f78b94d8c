import Mathlib.Algebra.Ring.Nat
import Stackwatch.Deflate.Inflate

/-!
# What compressed data stands for

The compressed format as a relation between bits and the bytes that they stand for, without a word
about how they are read. Codewords are given by their numbers, a reference by the place from which
each of its bytes comes, and a stored block by where it stands among the bits. How many codeword
lengths for distances a block may bring is a parameter: the format has room for 32, of which the
last two belong to no distance.
-/

namespace Stackwatch.Deflate

/-- A number in so many bits, lowest first. -/
def numberBits (width number : Nat) : List Bool := (List.range width).map number.testBit

/-- The bits of some bytes. -/
def bytesBits (bytes : Bytes) : List Bool := bytes.flatMap fun byte => numberBits 8 byte.toNat

/-! ### Codes -/

/-- How many symbols have a codeword of this length. A symbol of length 0 has none. -/
def wordCount (lengths : List Nat) : (length : Nat) → Nat
  | 0 => 0
  | length + 1 => lengths.count (length + 1)

/-- The number of the first codeword of a length. It follows the codewords that are one bit
    shorter. -/
def firstWord (lengths : List Nat) : (length : Nat) → Nat
  | 0 => 0
  | length + 1 => 2 * (firstWord lengths length + wordCount lengths length)

/-- The codeword of a symbol, highest bit first. Codewords of one length are consecutive numbers in
    the order of their symbols. -/
def word? (lengths : List Nat) (symbol : Nat) : Option (List Bool) :=
  match lengths[symbol]? with
  | none => none
  | some 0 => none
  | some length =>
      some (numberBits length
        (firstWord lengths length + (lengths.take symbol).count length)).reverse

/-- How many of all sequences of 15 bits begin with a codeword of this length. -/
def share : (length : Nat) → Nat
  | 0 => 0
  | length + 1 => 2 ^ (14 - length)

/-- Every sequence of bits begins with one of the codewords. -/
def Complete (lengths : List Nat) : Prop := (lengths.map share).sum = 2 ^ 15

/-- Codes leave no sequence of bits without a meaning, unless they have a single codeword, which is
    then one bit, or none at all. -/
inductive Usable (lengths : List Nat) : Prop where
  | complete (complete : Complete lengths)
  | single (only : lengths.filter (· ≠ 0) = [1])
  | vacant (nothing : lengths.filter (· ≠ 0) = [])

/-! ### Compressed symbols -/

/-- Ranges of numbers, each of which begins where the one before it ends. So many bits tell the
    numbers of a range apart. -/
def rangesFrom (least : Nat) : (widths : List Nat) → List (Nat × Nat)
  | [] => []
  | width :: others => (least, width) :: rangesFrom (least + 2 ^ width) others

/-- The lengths that the symbols behind the end of a block stand for; the greatest has a symbol of
    its own. -/
def lengthRanges : List (Nat × Nat) :=
  rangesFrom 3 ((List.range 28).map fun place => (place - 4) / 4) ++ [(258, 0)]

def distanceRanges : List (Nat × Nat) :=
  rangesFrom 1 ((List.range 30).map fun symbol => (symbol - 2) / 2)

/-- A symbol and the bits behind it stand for an amount. The symbols for amounts begin with
    `first`. -/
inductive Amount (lengths : List Nat) (first : Nat) (ranges : List (Nat × Nat)) :
    (amount : Nat) → (bits : List Bool) → Prop where
  | intro {place least width extra : Nat} {word : List Bool}
      (range : ranges[place]? = some (least, width)) (fits : extra < 2 ^ width)
      (isWord : word? lengths (first + place) = some word) :
      Amount lengths first ranges (least + extra) (word ++ numberBits width extra)

/-- So many bytes that repeat what was written `distance` bytes before, where the bytes may be among
    those that they repeat. -/
def repeated (distance length : Nat) (written : Bytes) : Bytes :=
  (List.range length).map fun place =>
    written.getD (written.length - distance + place % distance) 0

/-- The symbols of a block up to its end: what was written before them, their bits, and what is
    written after them. -/
inductive Symbols (literals distances : List Nat) :
    (before : Bytes) → (bits : List Bool) → (after : Bytes) → Prop where
  | stop {before : Bytes} {word : List Bool} (isWord : word? literals endOfBlock = some word) :
      Symbols literals distances before word before
  | literal {before after : Bytes} {byte : UInt8} {word rest : List Bool}
      (isWord : word? literals byte.toNat = some word)
      (others : Symbols literals distances (before ++ [byte]) rest after) :
      Symbols literals distances before (word ++ rest) after
  | reference {before after : Bytes} {length distance : Nat}
      {lengthBits distanceBits rest : List Bool}
      (isLength : Amount literals (endOfBlock + 1) lengthRanges length lengthBits)
      (isDistance : Amount distances 0 distanceRanges distance distanceBits)
      (reaches : distance ≤ before.length)
      (others :
        Symbols literals distances (before ++ repeated distance length before) rest after) :
      Symbols literals distances before (lengthBits ++ (distanceBits ++ rest)) after

/-! ### The codes of a block -/

/-- The lengths that a symbol of the length code repeats, how often at least, and how many bits say
    how much more often. -/
inductive Run (before : List Nat) : (symbol length least width : Nat) → Prop where
  | latest {length : Nat} (latest : before.getLast? = some length) : Run before 16 length 3 2
  | zeros : Run before 17 0 3 3
  | manyZeros : Run before 18 0 11 7

/-- Codeword lengths, written with a code of their own. -/
inductive Runs (lengthCode : List Nat) :
    (before : List Nat) → (bits : List Bool) → (after : List Nat) → Prop where
  | done {before : List Nat} : Runs lengthCode before [] before
  | single {before after : List Nat} {length : Nat} {word rest : List Bool} (short : length < 16)
      (isWord : word? lengthCode length = some word)
      (others : Runs lengthCode (before ++ [length]) rest after) :
      Runs lengthCode before (word ++ rest) after
  | run {before after : List Nat} {symbol length least width extra : Nat} {word rest : List Bool}
      (run : Run before symbol length least width) (fits : extra < 2 ^ width)
      (isWord : word? lengthCode symbol = some word)
      (others : Runs lengthCode (before ++ List.replicate (least + extra) length) rest after) :
      Runs lengthCode before (word ++ (numberBits width extra ++ rest)) after

/-- The codes that a block brings. Zeros at the end of the length code are left out. -/
inductive OwnCodes (limit : Nat) (literals distances : List Nat) : (bits : List Bool) → Prop where
  | intro {lengthCode sent : List Nat} {runs : List Bool}
      (literalCount : 257 ≤ literals.length ∧ literals.length ≤ 286)
      (distanceCount : 1 ≤ distances.length ∧ distances.length ≤ limit)
      (sentCount : 4 ≤ sent.length ∧ sent.length ≤ 19)
      (isLengthCode : lengthCode.length = 19 ∧ ∀ length ∈ lengthCode, length < 8)
      (inOrder : lengthCodeOrder.map (lengthCode.getD · 0) =
        sent ++ List.replicate (19 - sent.length) 0)
      (complete : Complete lengthCode)
      (isRuns : Runs lengthCode [] runs (literals ++ distances))
      (usableLiterals : Usable literals) (usableDistances : Usable distances) :
      OwnCodes limit literals distances
        (numberBits 5 (literals.length - 257) ++ (numberBits 5 (distances.length - 1) ++
          (numberBits 4 (sent.length - 4) ++ (sent.flatMap (numberBits 3) ++ runs))))

/-! ### Blocks -/

/-- The codeword lengths of a block that brings no codes. -/
def fixedLiterals : List Nat :=
  (List.range 288).map fun symbol =>
    if symbol < 144 then 8 else if symbol < 256 then 9 else if symbol < 280 then 7 else 8

def fixedDistances : List Nat := List.replicate 32 5

/-- A block from its kind on, which is so many bits behind the beginning. -/
inductive Block (limit position : Nat) :
    (before : Bytes) → (bits : List Bool) → (after : Bytes) → Prop where
  /-- The bytes begin at a whole byte; the bits in front of that mean nothing. -/
  | stored {before bytes : Bytes} {padding : List Bool} (short : padding.length < 8)
      (aligned : 8 ∣ position + 2 + padding.length) (fits : bytes.length < 2 ^ 16) :
      Block limit position before
        (numberBits 2 0 ++ (padding ++ (numberBits 16 bytes.length ++
          (numberBits 16 (2 ^ 16 - 1 - bytes.length) ++ bytesBits bytes))))
        (before ++ bytes)
  | fixed {before after : Bytes} {bits : List Bool}
      (symbols : Symbols fixedLiterals fixedDistances before bits after) :
      Block limit position before (numberBits 2 1 ++ bits) after
  | dynamic {before after : Bytes} {literals distances : List Nat} {codes bits : List Bool}
      (isCodes : OwnCodes limit literals distances codes)
      (symbols : Symbols literals distances before bits after) :
      Block limit position before (numberBits 2 2 ++ (codes ++ bits)) after

/-- Blocks up to the one that is marked as the last. -/
inductive Blocks (limit : Nat) :
    (position : Nat) → (before : Bytes) → (bits : List Bool) → (after : Bytes) → Prop where
  | last {position : Nat} {before after : Bytes} {bits : List Bool}
      (block : Block limit (position + 1) before bits after) :
      Blocks limit position before (true :: bits) after
  | more {position : Nat} {before between after : Bytes} {bits rest : List Bool}
      (block : Block limit (position + 1) before bits between)
      (others : Blocks limit (position + 1 + bits.length) between rest after) :
      Blocks limit position before (false :: (bits ++ rest)) after

/-- Compressed data stands for its contents. The bits behind the last block, in its last byte, mean
    nothing. -/
inductive Compressed (limit : Nat) (contents data : Bytes) : Prop where
  | intro {bits padding : List Bool} (blocks : Blocks limit 0 [] bits contents)
      (short : padding.length < 8) (whole : bytesBits data = bits ++ padding)

end Stackwatch.Deflate
