/-!
# Instants

The moment at which an entry was appended. A clock that shows a leap second shows 60, so an instant
is a whole second and a number of nanoseconds that exceeds a second in that case only. Days are
counted from 1970-01-01 in the Gregorian calendar, extended in both directions; the count goes by
eras of 400 years that begin on the first of March, so that a leap day is the last day of its year.
-/

set_option autoImplicit false

namespace SchemaRegistry

/-- A moment: seconds since 1970-01-01T00:00:00Z, and nanoseconds, of which a leap second has more
than 10⁹. -/
structure Instant where
  second : Int
  nanos : Nat
  deriving DecidableEq, Inhabited

namespace Instant

/-! ## The calendar -/

/-- A date of the calendar. -/
structure Date where
  year : Int
  month : Nat
  day : Nat
  deriving DecidableEq

def isLeapYear (year : Int) : Bool :=
  year % 4 == 0 && (year % 100 != 0 || year % 400 == 0)

def daysInMonth (year : Int) (month : Nat) : Nat :=
  if month = 2 then if isLeapYear year then 29 else 28
  else if month = 4 ∨ month = 6 ∨ month = 9 ∨ month = 11 then 30
  else 31

/-- Days from 1970-01-01 to a date. -/
def daysOfDate (date : Date) : Int :=
  let year := if date.month ≤ 2 then date.year - 1 else date.year
  let era := year / 400
  let yearOfEra := year % 400
  -- From March on, the months before month `m` have `(153 * m + 2) / 5` days.
  let monthOfYear := (date.month + 9) % 12
  let dayOfYear := (153 * monthOfYear + 2) / 5 + date.day - 1
  let dayOfEra := yearOfEra * 365 + yearOfEra / 4 - yearOfEra / 100 + dayOfYear
  era * 146097 + dayOfEra - 719468

/-- The date of a day counted from 1970-01-01. -/
def dateOfDays (days : Int) : Date :=
  let days := days + 719468
  let era := days / 146097
  let dayOfEra := (days % 146097).toNat
  let yearOfEra := (dayOfEra - dayOfEra / 1460 + dayOfEra / 36524 - dayOfEra / 146096) / 365
  let dayOfYear := dayOfEra - (365 * yearOfEra + yearOfEra / 4 - yearOfEra / 100)
  let monthOfYear := (5 * dayOfYear + 2) / 153
  let day := dayOfYear - (153 * monthOfYear + 2) / 5 + 1
  let month := if monthOfYear < 10 then monthOfYear + 3 else monthOfYear - 9
  let year := era * 400 + yearOfEra
  { year := if month ≤ 2 then year + 1 else year, month, day }

/-! ## Writing -/

/-- A number with zeros in front up to the width. -/
def padded (width n : Nat) : List Char :=
  let ds := Nat.toDigits 10 n
  List.replicate (width - ds.length) '0' ++ ds

/-- Four digits, or a sign and as many as it takes outside the years 0 to 9999. -/
def yearChars (year : Int) : List Char :=
  if 0 ≤ year ∧ year ≤ 9999 then padded 4 year.toNat
  else (if year < 0 then '-' else '+') :: padded 4 year.natAbs

/-- The fraction of a second in 0, 3, 6 or 9 digits, as few as hold it. -/
def fractionChars (nanos : Nat) : List Char :=
  if nanos = 0 then []
  else if nanos % 1000000 = 0 then '.' :: padded 3 (nanos / 1000000)
  else if nanos % 1000 = 0 then '.' :: padded 6 (nanos / 1000)
  else '.' :: padded 9 nanos

/-- Date and time of day, without a zone. -/
def chars (t : Instant) : List Char :=
  let date := dateOfDays (t.second / 86400)
  let secondOfDay := (t.second % 86400).toNat
  let isLeap := decide (1000000000 ≤ t.nanos)
  let second := secondOfDay % 60 + if isLeap then 1 else 0
  yearChars date.year ++ ['-'] ++ padded 2 date.month ++ ['-'] ++ padded 2 date.day ++ ['T']
    ++ padded 2 (secondOfDay / 3600) ++ [':'] ++ padded 2 (secondOfDay / 60 % 60) ++ [':']
    ++ padded 2 second ++ fractionChars (if isLeap then t.nanos - 1000000000 else t.nanos)

/-- The instant in universal time, the zone written as `Z`. -/
def text (t : Instant) : String :=
  String.ofList (t.chars ++ ['Z'])

/-- The instant in universal time, the zone written as an offset of zero. -/
def offsetText (t : Instant) : String :=
  String.ofList (t.chars ++ ['+', '0', '0', ':', '0', '0'])

end Instant

end SchemaRegistry
