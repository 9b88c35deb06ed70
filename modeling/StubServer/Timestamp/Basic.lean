import StubServer.Json.NumberText

/-!
# Points in time

A timestamp is a day of the Gregorian calendar, in universal time, with a second of the day and
a count of nanoseconds. A leap second is the second before it with a thousand million
nanoseconds and more.

## Main definitions

* `Timestamp`: a point in time.
* `Timestamp.ofNanoseconds`: the point in time after a count of nanoseconds.
* `Timestamp.dayOfDate`, `Timestamp.dateOfDay`: days since 1970-01-01 and calendar dates.
* `Timestamp.text`: the text with a closing `Z`; `Timestamp.offsetText` has `+00:00` instead.
-/

namespace StubServer

/-- A point in time. -/
structure Timestamp where
  /-- Days since 1970-01-01. -/
  day : Int
  /-- Seconds since midnight, below 86400. -/
  second : Nat
  /-- Nanoseconds; a leap second has a thousand million and more. -/
  nanosecond : Nat
  deriving DecidableEq, Inhabited

namespace Timestamp

/-! ### The calendar -/

/-- A date of the calendar. -/
structure Date where
  year : Int
  month : Nat
  day : Nat
  deriving DecidableEq

/-- Whether a year has a 29th of February. -/
def isLeapYear (year : Int) : Bool :=
  year % 4 == 0 && (year % 100 != 0 || year % 400 == 0)

/-- How many days a month has. -/
def daysInMonth (year : Int) (month : Nat) : Nat :=
  if month = 2 then if isLeapYear year then 29 else 28
  else if month = 4 ∨ month = 6 ∨ month = 9 ∨ month = 11 then 30
  else 31

/-- The day of a date. Years start in March for the count, so that the leap day is the last day
of a year, and 400 years have 146097 days. -/
def dayOfDate (date : Date) : Int :=
  let year := if date.month ≤ 2 then date.year - 1 else date.year
  let era := year / 400
  let yearOfEra := year % 400
  let month : Int := (date.month + 9) % 12
  let dayOfYear := (153 * month + 2) / 5 + date.day - 1
  era * 146097 + (yearOfEra * 365 + yearOfEra / 4 - yearOfEra / 100 + dayOfYear) - 719468

/-- The date of a day. -/
def dateOfDay (day : Int) : Date :=
  let shifted := day + 719468
  let era := shifted / 146097
  let dayOfEra := shifted % 146097
  let yearOfEra := (dayOfEra - dayOfEra / 1460 + dayOfEra / 36524 - dayOfEra / 146096) / 365
  let dayOfYear := dayOfEra - (365 * yearOfEra + yearOfEra / 4 - yearOfEra / 100)
  let shiftedMonth := (5 * dayOfYear + 2) / 153
  let month := if shiftedMonth < 10 then shiftedMonth + 3 else shiftedMonth - 9
  let year := yearOfEra + era * 400
  { year := if month ≤ 2 then year + 1 else year
    month := month.toNat
    day := (dayOfYear - (153 * shiftedMonth + 2) / 5 + 1).toNat }

/-- The first and the last year that timestamps reach. -/
def yearBounds : Int × Int := (-262143, 262142)

/-- Whether the year of a day is one that timestamps reach. -/
def inYears (day : Int) : Bool :=
  dayOfDate ⟨yearBounds.1, 1, 1⟩ ≤ day && day ≤ dayOfDate ⟨yearBounds.2, 12, 31⟩

/-- The point in time some nanoseconds after the start of 1970-01-01. -/
def ofNanoseconds (n : Int) : Timestamp where
  day := n / 86400000000000
  second := (n / 1000000000 % 86400).toNat
  nanosecond := (n % 1000000000).toNat

/-! ### The text -/

/-- A number with leading zeros up to the given width. -/
def padded (width n : Nat) : List Char :=
  let digits := decimalDigits n
  List.replicate (width - digits.length) '0' ++ digits

/-- A year: four digits, or a sign and at least four where four would not do. -/
def yearText (year : Int) : List Char :=
  if 0 ≤ year ∧ year ≤ 9999 then padded 4 year.natAbs
  else (if year < 0 then '-' else '+') :: padded 4 year.natAbs

/-- The fraction of a second, in as many groups of three digits as it takes. -/
def fractionText (nanosecond : Nat) : List Char :=
  if nanosecond = 0 then []
  else if nanosecond % 1000000 = 0 then '.' :: padded 3 (nanosecond / 1000000)
  else if nanosecond % 1000 = 0 then '.' :: padded 6 (nanosecond / 1000)
  else '.' :: padded 9 nanosecond

/-- The date and the time of day. -/
def localText (t : Timestamp) : List Char :=
  let date := dateOfDay t.day
  let isLeap := 1000000000 ≤ t.nanosecond
  let second := t.second % 60 + (if isLeap then 1 else 0)
  let nanosecond := if isLeap then t.nanosecond - 1000000000 else t.nanosecond
  yearText date.year ++ '-' :: padded 2 date.month ++ '-' :: padded 2 date.day ++
    'T' :: padded 2 (t.second / 3600) ++ ':' :: padded 2 (t.second / 60 % 60) ++
    ':' :: padded 2 second ++ fractionText nanosecond

/-- The text of a timestamp. -/
def text (t : Timestamp) : String :=
  .ofList (t.localText ++ ['Z'])

/-- The text of a timestamp with its offset written out. -/
def offsetText (t : Timestamp) : String :=
  .ofList (t.localText ++ ['+', '0', '0', ':', '0', '0'])

end Timestamp

end StubServer
