import Stackwatch.Deflate.Bits

/-!
# Prefix codes

A prefix code is a binary tree with symbols at its leaves; a codeword is the path to its symbol. The
format transmits only the length of each symbol's codeword: shorter codewords come first, and those
of one length are consecutive numbers in the order of their symbols.
-/

namespace Stackwatch.Deflate

inductive Code where
  | vacant
  | leaf (symbol : Nat)
  | node (zero one : Code)
  deriving DecidableEq, Repr, Inhabited

namespace Code

/-- The code without codewords: any next bit is wrong. -/
def empty : Code := .node .vacant .vacant

/-- The code with one more codeword. -/
def insert (symbol : Nat) : List Bool → Code → Code
  | [], _ => .leaf symbol
  | false :: path, .node zero one => .node (insert symbol path zero) one
  | true :: path, .node zero one => .node zero (insert symbol path one)
  | false :: path, _ => .node (insert symbol path .vacant) .vacant
  | true :: path, _ => .node .vacant (insert symbol path .vacant)

/-- Follows the next bits down to a symbol. -/
def read : Code → BitInput → Read (Nat × BitInput)
  | .vacant, _ => .error .corrupt
  | .leaf symbol, input => .ok (symbol, input)
  | .node zero one, input =>
      match input.next? with
      | none => .error .incomplete
      | some (false, rest) => zero.read rest
      | some (true, rest) => one.read rest

/-- The longest codeword the format can describe. -/
def maxLength : Nat := 15

/-- The lowest `width` bits of a number, highest first. -/
def codeword (width number : Nat) : List Bool :=
  ((List.range width).map fun index => number.testBit index).reverse

/-- The symbols whose codewords have this length. -/
def symbolsOfLength (lengths : List Nat) (length : Nat) : List Nat :=
  (List.range lengths.length).filter fun symbol => lengths[symbol]? == some length

/-- Codewords of `length` and more bits, the first of them being the number `first`. -/
def codewordsFrom (lengths : List Nat) : (levels length first : Nat) → List (List Bool × Nat)
  | 0, _, _ => []
  | levels + 1, length, first =>
      let symbols := symbolsOfLength lengths length
      let words := symbols.mapIdx fun offset symbol => (codeword length (first + offset), symbol)
      words ++ codewordsFrom lengths levels (length + 1) (2 * (first + symbols.length))

/-- All codewords for the given codeword lengths; length 0 means that a symbol is not used. -/
def codewords (lengths : List Nat) : List (List Bool × Nat) :=
  codewordsFrom lengths maxLength 1 0

/-- The share of all bit strings that start with a codeword, in units of the smallest share. -/
def coverage (lengths : List Nat) : Nat :=
  let shares := lengths.map fun length => if length = 0 then 0 else Nat.pow 2 (maxLength - length)
  shares.foldr (· + ·) 0

/-- Whether every bit string starts with exactly one codeword. -/
def isComplete (lengths : List Nat) : Bool := coverage lengths = Nat.pow 2 maxLength

/-- The code with the given codewords. -/
def ofCodewords (words : List (List Bool × Nat)) : Code :=
  words.foldl (fun code (word, symbol) => code.insert symbol word) empty

/-- The code for the given codeword lengths, which must be complete. -/
def ofCompleteLengths (lengths : List Nat) : Read Code :=
  if isComplete lengths then .ok (ofCodewords (codewords lengths)) else .error .corrupt

/-- The code for the given codeword lengths. Only a code without codewords, or with a single one of
    one bit, need not be complete. -/
def ofLengths (lengths : List Nat) : Read Code :=
  match codewords lengths with
  | [] => .ok empty
  | [([bit], symbol)] => .ok (ofCodewords [([bit], symbol)])
  | _ => ofCompleteLengths lengths

end Code

end Stackwatch.Deflate
