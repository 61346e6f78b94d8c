/-!
# Ranges of codes

A class of characters is given by the ranges of codes that it covers.
-/

namespace Stackwatch.Text

/-- Whether a code lies in one of the ranges, each of which is given by its first and its last
    code. -/
def within (ranges : List (Nat × Nat)) (code : Nat) : Bool :=
  ranges.any fun (first, last) => first ≤ code && code ≤ last

end Stackwatch.Text
