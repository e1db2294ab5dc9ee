/-!
# The Gregorian calendar

Days are counted from 1970-01-01, and the calendar is extended to all years, the year zero and the
negative ones included. Years are counted from March inside, so that the leap day comes last.

* `Date.ofDays`, `Date.toDays`: the date of a day and back.
* `Date.valid`: whether a month has a day with this number.
-/

namespace SessionAuth

/-- A date: a year, a month from 1 and a day from 1. -/
structure Date where
  year : Int
  month : Nat
  day : Nat
deriving DecidableEq, Repr

namespace Date

def isLeap (year : Int) : Bool := year % 4 == 0 && (year % 100 != 0 || year % 400 == 0)

def monthLength (year : Int) (month : Nat) : Nat :=
  if month = 2 then (if isLeap year then 29 else 28)
  else if month = 4 ∨ month = 6 ∨ month = 9 ∨ month = 11 then 30
  else 31

def valid (d : Date) : Bool :=
  1 ≤ d.month && d.month ≤ 12 && 1 ≤ d.day && d.day ≤ monthLength d.year d.month

def epoch : Int := 719468

def eraLength : Int := 146097

/-- The day of a date, counted from 1970-01-01. -/
def toDays (d : Date) : Int :=
  let year := if d.month ≤ 2 then d.year - 1 else d.year
  let month : Int := if d.month ≤ 2 then d.month + 9 else d.month - 3
  let era := year / 400
  let yearOfEra := year % 400
  let dayOfYear := (153 * month + 2) / 5 + d.day - 1
  era * eraLength + (yearOfEra * 365 + yearOfEra / 4 - yearOfEra / 100 + dayOfYear) - epoch

/-- The date of a day, counted from 1970-01-01. -/
def ofDays (n : Int) : Date :=
  let n := n + epoch
  let era := n / eraLength
  let dayOfEra := n % eraLength
  let yearOfEra :=
    (dayOfEra - dayOfEra / 1460 + dayOfEra / 36524 - dayOfEra / 146096) / 365
  let dayOfYear := dayOfEra - (365 * yearOfEra + yearOfEra / 4 - yearOfEra / 100)
  let month := (5 * dayOfYear + 2) / 153
  let day := dayOfYear - (153 * month + 2) / 5 + 1
  let year := yearOfEra + era * 400
  if month < 10 then ⟨year, (month + 3).toNat, day.toNat⟩
  else ⟨year + 1, (month - 9).toNat, day.toNat⟩

end Date

end SessionAuth
