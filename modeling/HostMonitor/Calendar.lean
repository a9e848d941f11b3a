import HostMonitor.Text.Numeral

/-!
# Points in time as text

A point in time is a number of nanoseconds since the start of 1970, and is shown as its date and
time of day in universal time: `2024-02-29T12:00:00.250Z`.
-/

namespace HostMonitor.Calendar

open Text

structure Date where
  year : Nat
  month : Nat
  day : Nat
  deriving DecidableEq, Repr

/-- Days from the first of March of the year 0 to the start of 1970. -/
def daysBefore1970 : Nat := 719468

def daysOfFourCenturies : Nat := 146097

/-- The date `days` days after the start of 1970. Years are counted from March on, so that a leap
day is the last day of its year. -/
def dateOfDay (days : Nat) : Date :=
  let z := days + daysBefore1970
  let era := z / daysOfFourCenturies
  let dayOfEra := z % daysOfFourCenturies
  let yearOfEra := (dayOfEra - dayOfEra / 1460 + dayOfEra / 36524 - dayOfEra / 146096) / 365
  let dayOfYear := dayOfEra - (365 * yearOfEra + yearOfEra / 4 - yearOfEra / 100)
  let monthOfYear := (5 * dayOfYear + 2) / 153
  let month := if monthOfYear < 10 then monthOfYear + 3 else monthOfYear - 9
  { year := yearOfEra + 400 * era + (if month ≤ 2 then 1 else 0)
    month := month
    day := dayOfYear - (153 * monthOfYear + 2) / 5 + 1 }

example : dateOfDay 0 = ⟨1970, 1, 1⟩ := by decide
example : dateOfDay 19782 = ⟨2024, 2, 29⟩ := by decide
example : dateOfDay 47540 = ⟨2100, 2, 28⟩ ∧ dateOfDay 47541 = ⟨2100, 3, 1⟩ := by decide

/-- `n` with zeros in front, up to `width` digits. -/
def padded (width n : Nat) : String :=
  let digits := Numeral.digits n
  String.ofList (List.replicate (width - digits.length) '0' ++ digits)

/-- Thousandths, millionths or billionths, whichever are enough. -/
def fractionText (nanoseconds : Nat) : String :=
  if nanoseconds = 0 then ""
  else if nanoseconds % 1000000 = 0 then "." ++ padded 3 (nanoseconds / 1000000)
  else if nanoseconds % 1000 = 0 then "." ++ padded 6 (nanoseconds / 1000)
  else "." ++ padded 9 nanoseconds

def timeText (nanoseconds : Nat) : String :=
  let seconds := nanoseconds / 1000000000
  let date := dateOfDay (seconds / 86400)
  padded 4 date.year ++ "-" ++ padded 2 date.month ++ "-" ++ padded 2 date.day ++ "T" ++
    padded 2 (seconds / 3600 % 24) ++ ":" ++ padded 2 (seconds / 60 % 60) ++ ":" ++
    padded 2 (seconds % 60) ++ fractionText (nanoseconds % 1000000000) ++ "Z"

end HostMonitor.Calendar
