/-!
# Resemblance

How much two names resemble each other: the mean of the shares of characters that they have in
common and of those that are also in the same order. Characters are in common if they stand at
nearly the same place.
-/

namespace Stackwatch.Command

/-- How far apart equal characters may stand. -/
def reach (first second : List Char) : Nat := max first.length second.length / 2 - 1

/-- Marks the first character that is equal, not marked and within reach; `place` is the place of
    the first of the marked characters, `low` and `high` bound the places within reach. -/
def markFirst (char : Char) (low high : Nat) :
    (place : Nat) → List (Char × Bool) → Option (List (Char × Bool))
  | _, [] => none
  | place, (other, marked) :: rest =>
      if low ≤ place ∧ place < high ∧ char = other ∧ marked = false then
        some ((other, true) :: rest)
      else
        (markFirst char low high (place + 1) rest).map ((other, marked) :: ·)

/-- The characters of the first name that the second has too, and the second name with marks at
    them. -/
def common (distance : Nat) :
    (place : Nat) → List Char → List (Char × Bool) → List Char × List (Char × Bool)
  | _, [], marks => ([], marks)
  | place, char :: rest, marks =>
      match markFirst char (place - distance) (place + distance + 1) 0 marks with
      | some marks =>
          let (found, marks) := common distance (place + 1) rest marks
          (char :: found, marks)
      | none => common distance (place + 1) rest marks

/-- The resemblance of two names, from 0 to 1. -/
def resemblance (first second : String) : Float :=
  let (found, marks) := common (reach first.toList second.toList) 0 first.toList
    (second.toList.map fun char => (char, false))
  let marked := (marks.filter (·.2)).map (·.1)
  let moved := ((found.zip marked).filter fun (one, other) => one != other).length / 2
  let share (part whole : Nat) : Float := Float.ofNat part / Float.ofNat whole
  if first.isEmpty && second.isEmpty then 1.0
  else if found.isEmpty then 0.0
  else
    (share found.length first.toList.length + share found.length second.toList.length +
      share (found.length - moved) found.length) / 3.0

/-- Names that resemble each other no more than this are taken for different ones. -/
def leastResemblance : Float := 0.7

/-- The candidate that resembles a name most; of equal ones the last. -/
def mostSimilar? (name : String) (candidates : List String) : Option String :=
  (candidates.foldl (fun best candidate =>
    let grade := resemblance name candidate
    if leastResemblance < grade then
      match best with
      | some (bestGrade, _) => if grade < bestGrade then best else some (grade, candidate)
      | none => some (grade, candidate)
    else best) (none : Option (Float × String))).map (·.2)

end Stackwatch.Command
