import SchemaRegistry.Text.Class
import SchemaRegistry.Time.Instant
/-!
# Reading instants

There are two readers of RFC 3339. `Instant.ofStrictText?` takes the form as the standard gives it:
fixed widths, no blanks. `Instant.ofText?` is for documents written by hand: numbers may have fewer
digits, years a sign and more of them, blanks may stand around separators, the zone may be called
`UTC`, and its hours and minutes need no colon.

Both report the first thing that is wrong, going from left to right, but they differ in what they
check on the way. The strict reader looks at the length first, at the date as soon as it has its
day, and at the time before the zone; the other reader checks each number alone, and whether the day
exists only when all has been read.
-/

set_option autoImplicit false

namespace SchemaRegistry.Instant

/-- Why a text is no instant. -/
inductive Flaw where
  | tooShort
  | invalid
  | outOfRange
  | impossible
  | tooLong
  deriving DecidableEq

def Flaw.message : Flaw → String
  | .tooShort => "premature end of input"
  | .invalid => "input contains invalid characters"
  | .outOfRange => "input is out of range"
  | .impossible => "no possible date and time matching input"
  | .tooLong => "trailing input"

/-- A part of a text read, and the rest. -/
abbrev Part (α : Type) := Except Flaw (α × List Char)

/-! ## Numbers and separators -/

def digit? (c : Char) : Option Nat :=
  if c.isDigit then some (c.toNat - '0'.toNat) else none

/-- Digits as long as there are any, at most `limit` of them where there is a limit. -/
def readDigits (limit : Option Nat) (n : Nat) : List Char → Nat × List Char
  | [] => (n, [])
  | c :: rest =>
    match limit, digit? c with
    | some 0, _ => (n, c :: rest)
    | _, none => (n, c :: rest)
    | limit, some d => readDigits (limit.map (· - 1)) (n * 10 + d) rest

/-- A number of at least one digit. -/
def readNumber (limit : Option Nat) (cs : List Char) : Part Nat :=
  match cs with
  | [] => .error .tooShort
  | c :: _ => if (digit? c).isSome then .ok (readDigits limit 0 cs) else .error .invalid

/-- One character that has to be there. -/
def readMark (mark : Char) (cs : List Char) : Except Flaw (List Char) :=
  match cs with
  | [] => .error .tooShort
  | c :: rest => if c = mark then .ok rest else .error .invalid

/-- The sign between date and time. -/
def readTimeMark (cs : List Char) : Except Flaw (List Char) :=
  match cs with
  | [] => .error .tooShort
  | c :: rest => if c = 'T' ∨ c = 't' ∨ c = ' ' then .ok rest else .error .invalid

/-- The nanoseconds of a fraction, behind its point. Digits after the ninth do not count. -/
def readNanos (cs : List Char) : Part Nat :=
  match readNumber (some 9) cs with
  | .error flaw => .error flaw
  | .ok (n, rest) =>
    .ok (n * Nat.pow 10 (9 - (cs.length - rest.length)), rest.dropWhile Char.isDigit)

/-- The number of octets of a text, as far as two. -/
def holdsTwoOctets : List Char → Bool
  | [] => false
  | [c] => decide (1 < c.utf8Size)
  | _ => true

/-- A zone as seconds east of universal time. `separator` passes over what may stand between hours
and minutes. -/
def readZone (separator : List Char → Except Flaw (List Char)) (cs : List Char) : Part Int :=
  match cs with
  | [] => .error .tooShort
  | c :: rest =>
    if c = 'Z' ∨ c = 'z' then .ok (0, rest)
    else if c = '+' then offset 1 rest
    else if c = '-' ∨ c = '\u2212' then offset (-1) rest
    else .error .invalid
where
  offset (sign : Int) (cs : List Char) : Part Int :=
    if ¬ holdsTwoOctets cs then .error .tooShort
    else
      match cs with
      | a :: b :: rest =>
        match digit? a, digit? b with
        | some a, some b =>
          match separator rest with
          | .error flaw => .error flaw
          | .ok rest => minutes sign (a * 10 + b) rest
        | _, _ => .error .invalid
      | _ => .error .invalid
  minutes (sign : Int) (hours : Nat) (cs : List Char) : Part Int :=
    if ¬ holdsTwoOctets cs then .error .tooShort
    else
      match cs with
      | a :: b :: rest =>
        match digit? a, digit? b with
        | some a, some b =>
          if 6 ≤ a then .error .outOfRange
          else .ok (sign * (hours * 3600 + (a * 10 + b) * 60 : Nat), rest)
        | _, _ => .error .invalid
      | _ => .error .invalid

/-! ## Putting the parts together -/

/-- The greatest and the least year that a date can have. -/
def minYear : Int := -262143
def maxYear : Int := 262142

/-- Whether the calendar has the date. -/
def Date.isValid (date : Date) : Bool :=
  minYear ≤ date.year && date.year ≤ maxYear && 1 ≤ date.month && date.month ≤ 12 &&
    1 ≤ date.day && date.day ≤ daysInMonth date.year date.month

/-- Seconds and nanoseconds into a day. The second 60 is the leap second that follows the second
59. -/
def ofClock? (hour minute second nanos : Nat) : Option (Nat × Nat) :=
  if hour ≤ 23 ∧ minute ≤ 59 ∧ second ≤ 60 then
    if second = 60 then some (hour * 3600 + minute * 60 + 59, nanos + 1000000000)
    else some (hour * 3600 + minute * 60 + second, nanos)
  else none

/-- The greatest offset of a zone in either direction. -/
def maxOffset : Int := (23 * 60 + 59) * 60

/-- The instant of a local date and time in a zone; none if its date in universal time is beyond the
calendar. -/
def ofLocal (date : Date) (clock : Nat × Nat) (offset : Int) : Except Flaw Instant :=
  let second := daysOfDate date * 86400 + clock.1 - offset
  let year := (dateOfDays (second / 86400)).year
  if minYear ≤ year ∧ year ≤ maxYear then .ok { second, nanos := clock.2 }
  else .error .impossible

/-! ## The strict reader -/

/-- Two digits. -/
def readTwo (cs : List Char) : Part Nat :=
  match cs with
  | a :: b :: rest =>
    match digit? a, digit? b with
    | some a, some b => .ok (a * 10 + b, rest)
    | _, _ => .error .invalid
  | _ => .error .invalid

/-- The least number of octets: those of date, time and the sign between them. -/
def minOctets : Nat := 19

def octetCount (cs : List Char) : Nat :=
  (String.ofList cs).utf8ByteSize

/-- Reads the standard's form. -/
def ofStrictChars? (cs : List Char) : Except Flaw Instant := do
  if octetCount cs < minOctets then throw .tooShort
  let (century, cs) ← readTwo cs
  let (yearOfCentury, cs) ← readTwo cs
  let cs ← readMark '-' cs
  let (month, cs) ← readTwo cs
  let cs ← readMark '-' cs
  let (day, cs) ← readTwo cs
  let date : Date := { year := (century * 100 + yearOfCentury : Nat), month, day }
  -- A day that does not exist is reported before the time is looked at.
  if ¬ date.isValid then throw .outOfRange
  let cs ← readTimeMark cs
  let (hour, cs) ← readTwo cs
  let cs ← readMark ':' cs
  let (minute, cs) ← readTwo cs
  let cs ← readMark ':' cs
  let (second, cs) ← readTwo cs
  let (nanos, cs) ← match cs with
    | '.' :: rest => readNanos rest
    | _ => pure (0, cs)
  let some clock := ofClock? hour minute second nanos | throw .outOfRange
  let (offset, cs) ← readZone (readMark ':') cs
  -- How far the zone may lie from universal time is judged once all has been read.
  if ¬ cs.isEmpty then throw .tooLong
  if offset < -maxOffset ∨ maxOffset < offset then throw .outOfRange
  ofLocal date clock offset

/-- `ofStrictChars?` on strings. -/
def ofStrictText? (s : String) : Except Flaw Instant :=
  ofStrictChars? s.toList

/-! ## The lenient reader -/

def skipBlanks (cs : List Char) : List Char :=
  cs.dropWhile Text.isBlank

/-- A number of at most two digits within bounds. -/
def readBounded (low high : Nat) (cs : List Char) : Part Nat :=
  match readNumber (some 2) (skipBlanks cs) with
  | .error flaw => .error flaw
  | .ok (n, rest) => if low ≤ n ∧ n ≤ high then .ok (n, rest) else .error .outOfRange

/-- A mark with blanks in front of it. -/
def readSpacedMark (mark : Char) (cs : List Char) : Except Flaw (List Char) :=
  readMark mark (skipBlanks cs)

/-- The year as it is written: up to four digits, or a sign and any number of them. -/
def readYear (cs : List Char) : Part Int :=
  match skipBlanks cs with
  | '-' :: rest => (readNumber none rest).bind fun (n, rest) => within (-n) rest
  | '+' :: rest => (readNumber none rest).bind fun (n, rest) => within n rest
  | rest => (readNumber (some 4) rest).bind fun (n, rest) => within n rest
where
  within (year : Int) (rest : List Char) : Part Int :=
    if -2147483648 ≤ year ∧ year < 2147483648 then .ok (year, rest) else .error .outOfRange

/-- Between the hours and minutes of a zone. -/
def skipZoneSeparator (cs : List Char) : Except Flaw (List Char) :=
  .ok (cs.dropWhile fun c => c == ':' || Text.isBlank c)

/-- A zone by offset or by name. -/
def readNamedZone (cs : List Char) : Part Int :=
  match skipBlanks cs with
  | a :: b :: c :: rest =>
    if a.toLower = 'u' ∧ b.toLower = 't' ∧ c.toLower = 'c' then .ok (0, rest)
    else readZone skipZoneSeparator (a :: b :: c :: rest)
  | cs => readZone skipZoneSeparator cs

/-- Reads the lenient form. -/
def ofChars? (cs : List Char) : Except Flaw Instant := do
  let (year, cs) ← readYear cs
  let cs ← readSpacedMark '-' cs
  let (month, cs) ← readBounded 1 12 cs
  let cs ← readSpacedMark '-' cs
  let (day, cs) ← readBounded 1 31 cs
  let cs ← readTimeMark cs
  let (hour, cs) ← readBounded 0 23 cs
  let cs ← readSpacedMark ':' cs
  let (minute, cs) ← readBounded 0 59 cs
  let cs ← readSpacedMark ':' cs
  let (second, cs) ← readBounded 0 60 cs
  let (nanos, cs) ← match cs with
    | '.' :: rest => readNanos rest
    | _ => pure (0, cs)
  let (offset, cs) ← readNamedZone cs
  -- All has been read. What follows judges the numbers together.
  if ¬ (skipBlanks cs).isEmpty then throw .tooLong
  let date : Date := { year, month, day }
  if ¬ date.isValid then throw .outOfRange
  let some clock := ofClock? hour minute second nanos | throw .outOfRange
  if offset < -maxOffset ∨ maxOffset < offset then throw .outOfRange
  ofLocal date clock offset

/-- `ofChars?` on strings. -/
def ofText? (s : String) : Except Flaw Instant :=
  ofChars? s.toList

end SchemaRegistry.Instant
