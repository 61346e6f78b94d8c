/-!
# Dates

Times since the epoch as calendar dates in universal time. A year is counted from March, so that a
leap day is the last day of its year; 400 years have 146097 days.
-/

namespace Stackwatch.Calendar

structure Date where
  year : Int
  month : Nat
  day : Nat
  deriving DecidableEq, Repr, Inhabited

/-- Days from the first of March of the year 0 to the epoch. -/
def epochOffset : Nat := 719468

/-- The date that lies so many days after the epoch, or before it if there are less than none. -/
def dateOfDays (days : Int) : Date :=
  let shifted := days + epochOffset
  let era := shifted / 146097
  let dayOfEra := (shifted % 146097).toNat
  let yearOfEra := (dayOfEra - dayOfEra / 1460 + dayOfEra / 36524 - dayOfEra / 146096) / 365
  let dayOfYear := dayOfEra - (365 * yearOfEra + yearOfEra / 4 - yearOfEra / 100)
  let monthFromMarch := (5 * dayOfYear + 2) / 153
  let month := if monthFromMarch < 10 then monthFromMarch + 3 else monthFromMarch - 9
  { year := yearOfEra + 400 * era + (if month ≤ 2 then 1 else 0)
    month := month
    day := dayOfYear - (153 * monthFromMarch + 2) / 5 + 1 }

/-- A number with leading zeros. -/
def padded (width number : Nat) : String :=
  let digits := Nat.toDigits 10 number
  String.ofList (List.replicate (width - digits.length) '0' ++ digits)

/-- A year of four digits. One that needs more, or lies before the year 0, has a sign. -/
def yearText (year : Int) : String :=
  let digits := padded 4 year.natAbs
  if year < 0 then "-" ++ digits else if 9999 < year then "+" ++ digits else digits

/-- A second after the epoch, or before it, in a form that can be part of a file name:
    `yyyy-mm-ddTHH-MM-SSZ`. -/
def stamp (seconds : Int) : String :=
  let date := dateOfDays (seconds / 86400)
  let time := (seconds % 86400).toNat
  String.intercalate "-"
      [yearText date.year, padded 2 date.month, padded 2 date.day] ++ "T" ++
    String.intercalate "-"
      [padded 2 (time / 3600), padded 2 (time / 60 % 60), padded 2 (time % 60)] ++ "Z"

end Stackwatch.Calendar
