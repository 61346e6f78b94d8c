import Stackwatch.Text.Ranges

/-!
# Blanks

Characters that count as space between words, in all scripts.
-/

namespace Stackwatch.Text

/-- First and last code of every range of blanks. -/
def blankRanges : List (Nat × Nat) :=
  [(0x09, 0x0d), (0x20, 0x20), (0x85, 0x85), (0xa0, 0xa0), (0x1680, 0x1680), (0x2000, 0x200a),
    (0x2028, 0x2029), (0x202f, 0x202f), (0x205f, 0x205f), (0x3000, 0x3000)]

def isBlank (char : Char) : Bool := within blankRanges char.toNat

end Stackwatch.Text
