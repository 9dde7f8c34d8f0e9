import OfferBook.Json.Printer

/-! # Instants

Milliseconds since the first of January 1970, in the calendar of the civil year and universal
time:

* `Date.ofDays` — the date of a day counted from 1970.
* `Instant.timestamp` — such as `2025-03-01T09:30:00.000Z`.
-/

namespace OfferBook

structure Date where
  year : Int
  month : Nat
  day : Nat
deriving DecidableEq

namespace Date

/-- Days of an era of 400 years. -/
def daysPerEra : Int := 146097

/-- The date of a day counted from 1970-01-01. Years are taken to begin in March, so that the
    leap day ends its year. -/
def ofDays (days : Int) : Date :=
  let shifted := days + 719468
  let era := Int.fdiv shifted daysPerEra
  let dayOfEra := (Int.fmod shifted daysPerEra).toNat
  let yearOfEra :=
    (dayOfEra - dayOfEra / 1460 + dayOfEra / 36524 - dayOfEra / 146096) / 365
  let dayOfYear := dayOfEra - (365 * yearOfEra + yearOfEra / 4 - yearOfEra / 100)
  let monthFromMarch := (5 * dayOfYear + 2) / 153
  let day := dayOfYear - (153 * monthFromMarch + 2) / 5 + 1
  let month := if monthFromMarch < 10 then monthFromMarch + 3 else monthFromMarch - 9
  ⟨yearOfEra + era * 400 + (if month ≤ 2 then 1 else 0), month, day⟩

end Date

/-- Milliseconds since the beginning of 1970. -/
abbrev Instant := Int

namespace Instant

def millisPerDay : Int := 86400000

def date (t : Instant) : Date := Date.ofDays (Int.fdiv t millisPerDay)

def year (t : Instant) : Int := t.date.year

/-- At least `width` digits. -/
def digits (width n : Nat) : String :=
  let ds := Nat.toDigits 10 n
  String.ofList (List.replicate (width - ds.length) '0' ++ ds)

/-- Four digits, or a sign and at least four digits for a year that four digits do not hold. -/
def yearText (year : Int) : String :=
  if 0 ≤ year ∧ year ≤ 9999 then digits 4 year.toNat
  else (if year < 0 then "-" else "+") ++ digits 4 year.natAbs

/-- Date and time of day to the millisecond. -/
def timestamp (t : Instant) : String :=
  let d := t.date
  let ms := (Int.fmod t millisPerDay).toNat
  yearText d.year ++ "-" ++ digits 2 d.month ++ "-" ++ digits 2 d.day ++ "T"
    ++ digits 2 (ms / 3600000) ++ ":" ++ digits 2 (ms / 60000 % 60) ++ ":"
    ++ digits 2 (ms / 1000 % 60) ++ "." ++ digits 3 (ms % 1000) ++ "Z"

end Instant

end OfferBook
