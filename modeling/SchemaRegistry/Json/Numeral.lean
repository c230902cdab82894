import SchemaRegistry.Decimal.Reading
import SchemaRegistry.Json.Stop
/-!
# Reading numerals

The digits of a numeral are collected in a significand of at most 64 bits. Once the next digit
would not fit, further digits of the whole part only raise the power of ten, and the fraction is
taken up as long as its digits fit. A numeral without fraction and exponent that fits a signed or
unsigned word of 64 bits is an integer; `-0`, which no integer can be, and every other numeral are
doubles.

`skipNumeral` passes over a numeral whose value nobody asks for. It knows no range, and at the end
of the document it reports the missing digit and not the missing rest.
-/

set_option autoImplicit false

namespace SchemaRegistry.Json

/-! ## Digits -/

/-- The digit that an octet stands for. -/
def digit? (b : UInt8) : Option Nat :=
  if 0x30 ≤ b ∧ b ≤ 0x39 then some (b.toNat - 0x30) else none

def startsWithDigit : Octets → Bool
  | [] => false
  | b :: _ => (digit? b).isSome

/-- The greatest significand, which is the greatest word of 64 bits. -/
def maxSignificand : Nat := 18446744073709551615

/-- Digits taken into a significand as long as they fit: the significand, how many were taken, and
the rest. -/
def takeDigits (significand count : Nat) : Octets → Nat × Nat × Octets
  | [] => (significand, count, [])
  | b :: rest =>
    match digit? b with
    | none => (significand, count, b :: rest)
    | some d =>
      if maxSignificand < significand * 10 + d then (significand, count, b :: rest)
      else takeDigits (significand * 10 + d) (count + 1) rest

/-- All digits passed over: how many, and the rest. -/
def passDigits (count : Nat) : Octets → Nat × Octets
  | [] => (count, [])
  | b :: rest => if (digit? b).isSome then passDigits (count + 1) rest else (count, b :: rest)

/-! ## Doubles -/

/-- The double of the parts, at the end of its numeral. -/
def doubleOfParts (negative : Bool) (significand : Nat) (exponent : Int) (rest : Octets) :
    Outcome Number :=
  match Decimal.ofParts? negative significand exponent with
  | some x => .ok (.double x, rest)
  | none => stopBehind .numberOutOfRange rest

/-- The greatest exponent, which is the greatest signed word of 32 bits. -/
def maxExponent : Int := 2147483647

def clampExponent (e : Int) : Int :=
  max (-maxExponent - 1) (min maxExponent e)

/-- The digits of an exponent after the first. An exponent too great to hold makes the number zero
or puts it out of range. -/
def readExponentDigits (negative : Bool) (significand : Nat) (start : Int) (raises : Bool)
    (exponent : Nat) : Octets → Outcome Number
  | [] => finish []
  | b :: rest =>
    match digit? b with
    | none => finish (b :: rest)
    | some d =>
      if maxExponent < (exponent * 10 + d : Nat) then
        -- The value is settled by now, and digits still to come cannot change it.
        if significand ≠ 0 ∧ raises then stopBehind .numberOutOfRange rest
        else .ok (.double (.zero negative), (passDigits 0 rest).2)
      else readExponentDigits negative significand start raises (exponent * 10 + d) rest
where
  finish (rest : Octets) : Outcome Number :=
    let written : Int := if raises then exponent else -(exponent : Int)
    doubleOfParts negative significand (clampExponent (start + written)) rest

/-- An exponent, behind its letter. -/
def readExponent (negative : Bool) (significand : Nat) (start : Int) (bs : Octets) :
    Outcome Number :=
  let (raises, bs) := match bs with
    | 0x2b :: rest => (true, rest)
    | 0x2d :: rest => (false, rest)
    | _ => (true, bs)
  match bs with
  | [] => stopBehind .endInValue []
  | b :: rest =>
    match digit? b with
    | none => stopBehind .invalidNumber rest
    | some d => readExponentDigits negative significand start raises d rest

/-- What may follow the digits of a double. -/
def readDoubleEnd (negative : Bool) (significand : Nat) (exponent : Int) (bs : Octets) :
    Outcome Number :=
  match bs with
  | 0x65 :: rest | 0x45 :: rest => readExponent negative significand exponent rest
  | _ => doubleOfParts negative significand exponent bs

/-- A fraction, behind its point. -/
def readFraction (negative : Bool) (significand : Nat) (exponent : Int) (bs : Octets) :
    Outcome Number :=
  let (significand, count, rest) := takeDigits significand 0 bs
  -- The significand is full: what is left of the fraction is dropped.
  if startsWithDigit rest then
    readDoubleEnd negative significand (exponent - count) (passDigits 0 rest).2
  else if count = 0 then stopAt (if rest.isEmpty then .endInValue else .invalidNumber) rest
  else readDoubleEnd negative significand (exponent - count) rest

/-! ## Numerals -/

/-- The integer or negative zero that a significand without fraction and exponent is. -/
def wholeNumber (negative : Bool) (significand : Nat) (rest : Octets) : Outcome Number :=
  if ¬ negative then .ok (.integer significand, rest)
  else if 0 < significand ∧ significand ≤ 9223372036854775808 then
    .ok (.integer (-significand), rest)
  else doubleOfParts true significand 0 rest

/-- What may follow the whole part of a numeral that fits the significand. -/
def readAfterWhole (negative : Bool) (significand : Nat) (bs : Octets) : Outcome Number :=
  match bs with
  | 0x2e :: rest => readFraction negative significand 0 rest
  | 0x65 :: rest | 0x45 :: rest => readExponent negative significand 0 rest
  | _ => wholeNumber negative significand bs

/-- What may follow the whole part of a numeral that does not fit, `dropped` digits of which went
into the power of ten. -/
def readAfterLongWhole (negative : Bool) (significand dropped : Nat) (bs : Octets) :
    Outcome Number :=
  match bs with
  | 0x2e :: rest => readFraction negative significand dropped rest
  | 0x65 :: rest | 0x45 :: rest => readExponent negative significand dropped rest
  | _ => doubleOfParts negative significand dropped bs

/-- A numeral, behind its sign. -/
def readUnsigned (negative : Bool) (bs : Octets) : Outcome Number :=
  match bs with
  | [] => stopBehind .endInValue []
  | b :: rest =>
    match digit? b with
    | none => stopBehind .invalidNumber rest
    | some 0 =>
      if startsWithDigit rest then stopAt .invalidNumber rest
      else readAfterWhole negative 0 rest
    | some d =>
      let (significand, _, rest) := takeDigits d 0 rest
      if startsWithDigit rest then
        let (dropped, rest) := passDigits 0 rest
        readAfterLongWhole negative significand dropped rest
      else readAfterWhole negative significand rest

/-- A numeral at its first octet, which is known to be a sign or a digit. -/
def readNumeral (bs : Octets) : Outcome Number :=
  match bs with
  | 0x2d :: rest => readUnsigned true rest
  | _ => readUnsigned false bs

/-! ## Passing over a numeral -/

def skipExponent (bs : Octets) : Except Stop Octets :=
  let bs := match bs with
    | 0x2b :: rest | 0x2d :: rest => rest
    | _ => bs
  match bs with
  | [] => stopBehind .invalidNumber []
  | b :: rest =>
    if (digit? b).isSome then .ok (passDigits 0 rest).2 else stopBehind .invalidNumber rest

def skipFraction (bs : Octets) : Except Stop Octets :=
  let (count, rest) := passDigits 0 bs
  if count = 0 then stopAt .invalidNumber rest
  else
    match rest with
    | 0x65 :: more | 0x45 :: more => skipExponent more
    | _ => .ok rest

def skipUnsigned (bs : Octets) : Except Stop Octets := do
  let rest ← match bs with
    | [] => stopBehind .invalidNumber []
    | b :: rest =>
      match digit? b with
      | none => stopBehind .invalidNumber rest
      | some 0 => if startsWithDigit rest then stopAt .invalidNumber rest else pure rest
      | some _ => pure (passDigits 0 rest).2
  match rest with
  | 0x2e :: more => skipFraction more
  | 0x65 :: more | 0x45 :: more => skipExponent more
  | _ => pure rest

def skipNumeral (bs : Octets) : Except Stop Octets :=
  match bs with
  | 0x2d :: rest => skipUnsigned rest
  | _ => skipUnsigned bs

end SchemaRegistry.Json
