import SchemaRegistry.Time.Instant
import SchemaRegistry.Toml.Numeral
/-!
# Dates and times

A document can give a date, a time of day, or both, and with both the offset from universal time.
They mean no instant without the offset, so they are kept as they are given. Numbers have fixed
widths. A fraction of a second has any number of digits, of which nine count.

An hour that does not exist leaves open that the text is something else, for instance a date with
a number behind it; any other number out of range is the error of a date or a time.
-/

set_option autoImplicit false

namespace SchemaRegistry.Toml

/-- A time of day. -/
structure Clock where
  hour : Nat
  minute : Nat
  second : Nat
  nanos : Nat
  deriving DecidableEq

/-- How a time is related to universal time. -/
inductive Zone where
  | universal
  /-- Minutes ahead of universal time. -/
  | ahead (minutes : Int)
  deriving DecidableEq

/-- A date, a time of day or both. -/
inductive Moment where
  | date (date : Instant.Date)
  | clock (clock : Clock)
  | both (date : Instant.Date) (clock : Clock) (zone : Option Zone)
  deriving DecidableEq

/-! ## Writing -/

open Instant (padded)

def dateChars (d : Instant.Date) : List Char :=
  padded 4 d.year.toNat ++ ['-'] ++ padded 2 d.month ++ ['-'] ++ padded 2 d.day

/-- The fraction has as few digits as hold it. -/
def Clock.chars (t : Clock) : List Char :=
  let fraction := if t.nanos = 0 then []
    else '.' :: ((padded 9 t.nanos).reverse.dropWhile (· = '0')).reverse
  padded 2 t.hour ++ [':'] ++ padded 2 t.minute ++ [':'] ++ padded 2 t.second ++ fraction

def Zone.chars : Zone → List Char
  | .universal => ['Z']
  | .ahead minutes =>
    (if minutes < 0 then '-' else '+') :: padded 2 (minutes.natAbs / 60) ++ [':'] ++
      padded 2 (minutes.natAbs % 60)

def Moment.text : Moment → String
  | .date d => String.ofList (dateChars d)
  | .clock t => String.ofList t.chars
  | .both d t zone =>
    String.ofList (dateChars d ++ ['T'] ++ t.chars ++ (zone.map Zone.chars).getD [])

/-! ## Reading -/

open Reader

/-- A number of so many digits. -/
def readFixed (width : Nat) : Reader Nat := do
  let ds ← runOf width Char.isDigit
  pure (digitsValue 10 ds)

/-- A number of two digits within bounds. -/
def readBounded (low high : Nat) : Reader Nat :=
  check (readFixed 2) fun n => if low ≤ n ∧ n ≤ high then .ok n else .error .outOfRange

def readHour : Reader Nat := readBounded 0 23

def readMinute : Reader Nat := readBounded 0 59

def readDate : Reader Instant.Date := do
  let year ← readFixed 4
  let _ ← mark '-'
  settled do
    let month ← readBounded 1 12
    let _ ← mark '-'
    let day ← check (readBounded 1 31) fun day =>
      if day ≤ Instant.daysInMonth year month then .ok day else .error .outOfRange
    pure { year, month, day }

/-- The nanoseconds of a fraction. -/
def readNanos : Reader Nat := do
  let _ ← mark '.'
  let ds := (← someRun Char.isDigit).take 9
  pure (digitsValue 10 ds * Nat.pow 10 (9 - ds.length))

def readClock : Reader Clock := do
  let hour ← readHour
  let _ ← mark ':'
  settled do
    let minute ← readMinute
    let _ ← mark ':'
    let second ← readBounded 0 60
    let nanos ← attempt readNanos
    pure { hour, minute, second, nanos := nanos.getD 0 }

def readZone : Reader Zone :=
  inPart "time offset" <| firstOf
    (do
      let _ ← one fun c => c == 'Z' || c == 'z'
      pure .universal)
    (do
      let c ← one fun c => c == '+' || c == '-'
      settled do
        let hours ← readHour
        let _ ← mark ':'
        let minutes ← readMinute
        let offset : Int := (hours * 60 + minutes : Nat)
        pure (.ahead (if c = '-' then -offset else offset)))

/-- A time behind a date. -/
def readClockBehind : Reader (Clock × Option Zone) := do
  let _ ← one fun c => c == 'T' || c == 't' || c == ' '
  let clock ← readClock
  let zone ← attempt readZone
  pure (clock, zone)

def readMoment : Reader Moment :=
  firstOf
    (inPart "date-time" do
      let date ← readDate
      match ← attempt readClockBehind with
      | none => pure (.date date)
      | some (clock, zone) => pure (.both date clock zone))
    (inPart "time" do
      let clock ← readClock
      pure (.clock clock))

end SchemaRegistry.Toml
