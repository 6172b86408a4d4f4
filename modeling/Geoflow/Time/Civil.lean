import Geoflow.Numeral

set_option autoImplicit false

namespace Geoflow.Time

def isLeapYear (year : Int) : Bool := (year % 4 == 0 && year % 100 != 0) || year % 400 == 0

/-- The length of a month; zero where there is no such month. -/
def daysInMonth (year : Int) (month : Nat) : Nat :=
  match month with
  | 1 | 3 | 5 | 7 | 8 | 10 | 12 => 31
  | 4 | 6 | 9 | 11 => 30
  | 2 => if isLeapYear year then 29 else 28
  | _ => 0

structure Date where
  year : Int
  month : Nat
  day : Nat
  deriving DecidableEq, Repr

def Date.isValid (d : Date) : Bool := 1 ≤ d.day && d.day ≤ daysInMonth d.year d.month

/-- Days from 1970-01-01. Years are counted from March, so that the leap day ends a year. -/
def Date.toDays (d : Date) : Int :=
  let year := if d.month ≤ 2 then d.year - 1 else d.year
  let month : Int := if d.month ≤ 2 then d.month + 9 else d.month - 3
  365 * year + year / 4 - year / 100 + year / 400 + (153 * month + 2) / 5 + d.day - 1 - 719468

def Date.ofDays (days : Int) : Date :=
  let shifted := days + 719468
  let era := shifted / 146097
  let dayOfEra := shifted % 146097
  let yearOfEra := (dayOfEra - dayOfEra / 1460 + dayOfEra / 36524 - dayOfEra / 146096) / 365
  let dayOfYear := dayOfEra - (365 * yearOfEra + yearOfEra / 4 - yearOfEra / 100)
  let monthFromMarch := (5 * dayOfYear + 2) / 153
  let day := dayOfYear - (153 * monthFromMarch + 2) / 5 + 1
  let month := if monthFromMarch < 10 then monthFromMarch + 3 else monthFromMarch - 9
  let year := yearOfEra + era * 400 + (if month ≤ 2 then 1 else 0)
  ⟨year, month.toNat, day.toNat⟩

/-- The text of a date; years of more or less than four digits have a sign. -/
def Date.chars (d : Date) : List Char :=
  let year :=
    if 0 ≤ d.year ∧ d.year ≤ 9999 then Numeral.padded 4 d.year.toNat
    else (if d.year < 0 then '-' else '+') :: Numeral.padded 4 d.year.natAbs
  year ++ '-' :: Numeral.padded 2 d.month ++ '-' :: Numeral.padded 2 d.day

def fractionChars (nanos : Nat) : List Char :=
  if nanos = 0 then []
  else if nanos % 1000000 = 0 then '.' :: Numeral.padded 3 (nanos / 1000000)
  else if nanos % 1000 = 0 then '.' :: Numeral.padded 6 (nanos / 1000)
  else '.' :: Numeral.padded 9 nanos

/-- The text of a time of day. From a thousand million nanoseconds on, the second is a leap
second. -/
def clockChars (secondOfDay nanos : Nat) : List Char :=
  let leap := if 1000000000 ≤ nanos then 1 else 0
  Numeral.padded 2 (secondOfDay / 3600) ++ ':' :: Numeral.padded 2 (secondOfDay / 60 % 60)
    ++ ':' :: Numeral.padded 2 (secondOfDay % 60 + leap) ++ fractionChars (nanos % 1000000000)

end Geoflow.Time
