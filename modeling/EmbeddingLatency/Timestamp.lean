import EmbeddingLatency.Decimal.Fixed

/-!
# Points in time

A point in time is counted in seconds and nanoseconds from the beginning of 1970, in universal time.
A leap second is written as a 60th second: its nanoseconds go from one to two billion. Years outside
of 0 to 9999 are written with a sign.
-/

set_option autoImplicit false

namespace EmbeddingLatency

/-- A point in universal time. -/
structure Timestamp where
  /-- Seconds since the beginning of 1970; earlier times are negative. -/
  seconds : Int
  nanos : Nat
  deriving DecidableEq, Repr

/-- A calendar day. -/
structure CalendarDay where
  year : Int
  month : Nat
  day : Nat
  deriving DecidableEq, Repr

/-- The day that lies `days` days after the first of January 1970. Years are counted from March, so
    that a leap day is the last day of its year, and in eras of 400 years. -/
def CalendarDay.ofDays (days : Int) : CalendarDay :=
  let shifted := days + 719468
  let era := shifted.fdiv 146097
  let dayOfEra := (shifted.fmod 146097).toNat
  let yearOfEra := (dayOfEra - dayOfEra / 1460 + dayOfEra / 36524 - dayOfEra / 146096) / 365
  let dayOfYear := dayOfEra - (365 * yearOfEra + yearOfEra / 4 - yearOfEra / 100)
  let marchMonth := (5 * dayOfYear + 2) / 153
  let month := if marchMonth < 10 then marchMonth + 3 else marchMonth - 9
  { year := era * 400 + yearOfEra + (if month ≤ 2 then 1 else 0)
    month
    day := dayOfYear - (153 * marchMonth + 2) / 5 + 1 }

namespace Timestamp

/-- The number with zeros in front up to a width. -/
def zeros (width n : Nat) : String := String.ofList (Decimal.padded width n)

/-- A year; four digits at least. -/
def yearText (year : Int) : String :=
  if 0 ≤ year ∧ year ≤ 9999 then zeros 4 year.toNat
  else (if year < 0 then "-" else "+") ++ zeros 4 year.natAbs

/-- The calendar day of a point in time. -/
def day (t : Timestamp) : CalendarDay := .ofDays (t.seconds.fdiv 86400)

/-- The date as year, month and day. -/
def dateText (t : Timestamp) : String :=
  yearText t.day.year ++ "-" ++ zeros 2 t.day.month ++ "-" ++ zeros 2 t.day.day

/-- The time of day as hours, minutes and seconds. -/
def timeText (t : Timestamp) : String :=
  let second := (t.seconds.fmod 86400).toNat
  zeros 2 (second / 3600) ++ ":" ++ zeros 2 (second / 60 % 60) ++ ":" ++
    zeros 2 (second % 60 + t.nanos / 1000000000)

/-- The fraction of the second: nothing, or as many groups of three digits as are needed. -/
def fractionText (t : Timestamp) : String :=
  let nanos := t.nanos % 1000000000
  if nanos = 0 then ""
  else if nanos % 1000000 = 0 then "." ++ zeros 3 (nanos / 1000000)
  else if nanos % 1000 = 0 then "." ++ zeros 6 (nanos / 1000)
  else "." ++ zeros 9 nanos

/-- Date, time and offset in one word. -/
def rfc3339 (t : Timestamp) : String :=
  t.dateText ++ "T" ++ t.timeText ++ t.fractionText ++ "+00:00"

/-- Date and time to the second. -/
def readable (t : Timestamp) : String := t.dateText ++ " " ++ t.timeText ++ " UTC"

/-- Date and time to the microsecond, as they stand in front of log lines. -/
def stamp (t : Timestamp) : String :=
  t.dateText ++ "T" ++ t.timeText ++ "." ++ zeros 6 (t.nanos % 1000000000 / 1000) ++ "Z"

/-- The point in time that lies some nanoseconds after the beginning of 1970. -/
def ofNanoseconds (n : Nat) : Timestamp := ⟨(n / 1000000000 : Nat), n % 1000000000⟩

example : (⟨1700000000, 0⟩ : Timestamp).readable = "2023-11-14 22:13:20 UTC" := by decide +kernel

end Timestamp

end EmbeddingLatency
