/-!
# Instants

An instant is a whole number of nanoseconds before or after the start of 1970.
`Instant.text` is its date and time of day in the proleptic Gregorian calendar:
as many digits of a second as it needs, in groups of three, and a sign before a
year that does not have four digits.
-/

namespace ScanConsole

structure Instant where
  /-- Nanoseconds since the start of 1970. -/
  nanos : Int
  deriving DecidableEq, Repr, Inhabited

namespace Instant

/-- Whole milliseconds since the start of 1970, towards the past. -/
def millis (t : Instant) : Int := t.nanos / 1000000

/-- Whole milliseconds from `s` to `t`, towards zero. -/
def millisSince (t s : Instant) : Int := (t.nanos - s.nanos).tdiv 1000000

/-- So many seconds later. -/
def after (t : Instant) (seconds : Nat) : Instant := ⟨t.nanos + seconds * 1000000000⟩

/-- A calendar date. -/
structure Date where
  year : Int
  month : Int
  day : Int
  deriving DecidableEq, Repr

/-- The date of a day, counted from the first of January 1970. Years are taken to start in March, so
that the leap day is the last of its year, and four centuries to have 146097 days. -/
def Date.ofDay (day : Int) : Date :=
  let z := day + 719468
  let era := z / 146097
  let doe := z % 146097
  let yoe := (doe - doe / 1460 + doe / 36524 - doe / 146096) / 365
  let doy := doe - (365 * yoe + yoe / 4 - yoe / 100)
  let mp := (5 * doy + 2) / 153
  let month := if mp < 10 then mp + 3 else mp - 9
  ⟨yoe + era * 400 + (if month ≤ 2 then 1 else 0), month, doy - (153 * mp + 2) / 5 + 1⟩

/-- A number written with at least so many digits. -/
def padded (width : Nat) (n : Int) : String :=
  let digits := toString n.natAbs
  String.ofList (List.replicate (width - digits.length) '0') ++ digits

/-- A year: four digits, or a sign and at least four digits. -/
def yearText (year : Int) : String :=
  if 0 ≤ year ∧ year ≤ 9999 then padded 4 year
  else (if year < 0 then "-" else "+") ++ padded 4 year

/-- A part of a second, in billionths: nothing, three digits, six or nine. -/
def fractionText (nanos : Int) : String :=
  if nanos == 0 then ""
  else if nanos % 1000000 == 0 then "." ++ padded 3 (nanos / 1000000)
  else if nanos % 1000 == 0 then "." ++ padded 6 (nanos / 1000)
  else "." ++ padded 9 nanos

/-- The instant as a date and time in universal time. -/
def text (t : Instant) : String :=
  let seconds := t.nanos / 1000000000
  let date := Date.ofDay (seconds / 86400)
  let s := seconds % 86400
  yearText date.year ++ "-" ++ padded 2 date.month ++ "-" ++ padded 2 date.day ++ "T" ++
    padded 2 (s / 3600) ++ ":" ++ padded 2 (s / 60 % 60) ++ ":" ++ padded 2 (s % 60) ++
    fractionText (t.nanos % 1000000000) ++ "Z"

end Instant

end ScanConsole
