/-!
# Timestamps

A moment as seconds since 1970 and nanoseconds, written as a date and a time in UTC.
-/

namespace Layering.Report

/-- A moment in UTC. -/
structure Timestamp where
  /-- Seconds since the start of 1970. -/
  seconds : Int := 0
  nanos : Nat := 0
deriving DecidableEq, Repr, Inhabited

namespace Timestamp

/-- Year, month and day of a number of days since 1970, in the proleptic Gregorian calendar.
Years are counted from March on, in periods of 400 years. -/
def civil (days : Int) : Int × Nat × Nat :=
  let shifted := days + 719468
  let era := shifted / 146097
  let dayOfEra := (shifted % 146097).toNat
  let yearOfEra := (dayOfEra - dayOfEra / 1460 + dayOfEra / 36524 - dayOfEra / 146096) / 365
  let dayOfYear := dayOfEra - (365 * yearOfEra + yearOfEra / 4 - yearOfEra / 100)
  let monthFromMarch := (5 * dayOfYear + 2) / 153
  let day := dayOfYear - (153 * monthFromMarch + 2) / 5 + 1
  let month := if monthFromMarch < 10 then monthFromMarch + 3 else monthFromMarch - 9
  (yearOfEra + era * 400 + (if month ≤ 2 then 1 else 0), month, day)

/-- A number with zeros in front up to a width. -/
def padded (width n : Nat) : String :=
  let digits := Nat.toDigits 10 n
  String.ofList (List.replicate (width - digits.length) '0' ++ digits)

/-- A year with four digits, or with a sign if it needs more or lies before year zero. -/
def yearText (year : Int) : String :=
  if 0 ≤ year && year ≤ 9999 then padded 4 year.toNat
  else (if year < 0 then "-" else "+") ++ padded 4 year.natAbs

/-- A fraction of a second with as few of 0, 3, 6 or 9 digits as it needs. -/
def fractionText (nanos : Nat) : String :=
  if nanos == 0 then ""
  else if nanos % 1000000 == 0 then "." ++ padded 3 (nanos / 1000000)
  else if nanos % 1000 == 0 then "." ++ padded 6 (nanos / 1000)
  else "." ++ padded 9 nanos

/-- Date and time with the offset of UTC. -/
def text (t : Timestamp) : String :=
  let (year, month, day) := civil (t.seconds / 86400)
  let rest := (t.seconds % 86400).toNat
  yearText year ++ "-" ++ padded 2 month ++ "-" ++ padded 2 day ++ "T" ++
    padded 2 (rest / 3600) ++ ":" ++ padded 2 (rest % 3600 / 60) ++ ":" ++ padded 2 (rest % 60) ++
    fractionText t.nanos ++ "+00:00"

end Timestamp

end Layering.Report
