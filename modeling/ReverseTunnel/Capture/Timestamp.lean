/-!
# Points in time

A point in time is a number of nanoseconds before or after the start of the year 1970. It is
written in the calendar of the web, in universal time.
-/

namespace ReverseTunnel

/-- Nanoseconds since the start of 1970. -/
structure Timestamp where
  nanoseconds : Int
  deriving DecidableEq, Repr

namespace Timestamp

/-- A day of the calendar. -/
structure Date where
  year : Int
  month : Nat
  day : Nat
  deriving DecidableEq, Repr

/-- The date of a day counted from the start of 1970. Years are counted from March on, so that
a leap day ends its year: 400 of them have 146097 days, and 153 days fill five months. -/
def dateOfDay (day : Int) : Date :=
  let day := day + 719468
  let era := day.fdiv 146097
  let inEra := (day - era * 146097).toNat
  let yearInEra := (inEra - inEra / 1460 + inEra / 36524 - inEra / 146096) / 365
  let inYear := inEra - (365 * yearInEra + yearInEra / 4 - yearInEra / 100)
  let monthFromMarch := (5 * inYear + 2) / 153
  let month := if monthFromMarch < 10 then monthFromMarch + 3 else monthFromMarch - 9
  let year := era * 400 + yearInEra + (if month ≤ 2 then 1 else 0)
  ⟨year, month, inYear - (153 * monthFromMarch + 2) / 5 + 1⟩

/-- A number with at least `width` digits. -/
def padded (width n : Nat) : String :=
  let digits := toString n
  String.ofList (List.replicate (width - digits.length) '0') ++ digits

/-- A fraction of a second: nothing, or three, six or nine digits, as few as say it all. -/
def fraction (nanoseconds : Nat) : String :=
  if nanoseconds = 0 then ""
  else if nanoseconds % 1000000 = 0 then "." ++ padded 3 (nanoseconds / 1000000)
  else if nanoseconds % 1000 = 0 then "." ++ padded 6 (nanoseconds / 1000)
  else "." ++ padded 9 nanoseconds

/-- Date and time of day, as `2024-01-31T23:59:59.5Z` would be with three digits. -/
def print (t : Timestamp) : String :=
  let second := t.nanoseconds.fdiv 1000000000
  let date := dateOfDay (second.fdiv 86400)
  let inDay := (second.fmod 86400).toNat
  padded 4 date.year.toNat ++ "-" ++ padded 2 date.month ++ "-" ++ padded 2 date.day
    ++ "T" ++ padded 2 (inDay / 3600) ++ ":" ++ padded 2 (inDay / 60 % 60)
    ++ ":" ++ padded 2 (inDay % 60)
    ++ fraction (t.nanoseconds.fmod 1000000000).toNat ++ "Z"

end Timestamp

end ReverseTunnel
