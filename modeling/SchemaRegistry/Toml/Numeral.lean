import SchemaRegistry.Decimal.Binary64
import SchemaRegistry.Toml.Quotation
/-!
# Numbers

Integers are decimal with an optional sign, or hexadecimal, octal or binary behind `0x`, `0o` or
`0b`, and have to fit 64 bits. A number with a fraction or an exponent is the nearest double; one
too great for a double is refused, but one too far below zero is the negative infinity. An
underscore may stand between two digits. A decimal number does not start with a needless zero.
-/

set_option autoImplicit false

namespace SchemaRegistry.Toml

/-- A number with a fraction or an exponent, or one of the three that are not finite. -/
inductive Double where
  | finite (x : Decimal.Binary64)
  | infinite (isNegative : Bool)
  | nan
  deriving DecidableEq

open Reader

/-! ## Digits -/

/-- A digit of the class, or an underscore and a digit behind it. -/
def readNextDigit (p : Char → Bool) : Reader Char :=
  firstOf (one p) do
    let _ ← mark '_'
    expecting ["digit"] (settled (one p))

/-- Digits of the class, the first of which belongs to another one. -/
def readDigitsFrom (first p : Char → Bool) : Reader (List Char) := do
  let d ← one first
  let more ← many (readNextDigit p)
  pure (d :: more)

/-- Digits with underscores between them. -/
def readDigits (p : Char → Bool) : Reader (List Char) := readDigitsFrom p p

/-- A sign, as whether it is a minus sign. -/
def readSign : Reader Bool := do
  let c ← attempt (one fun c => c == '+' || c == '-')
  pure (c == some '-')

/-- A sign and decimal digits that do not start with a needless zero. -/
def readDecimal : Reader (Bool × List Char) :=
  inPart "integer" do
    let isNegative ← readSign
    let ds ← firstOf (readDigitsFrom (fun c => c.isDigit && c ≠ '0') Char.isDigit)
      (do let d ← one Char.isDigit; pure [d])
    pure (isNegative, ds)

/-! ## Integers -/

/-- The integer of a sign and a magnitude, if it fits 64 bits. -/
def signed (isNegative : Bool) (n : Nat) : Except Cause Int :=
  if isNegative then if n ≤ 9223372036854775808 then .ok (-(n : Int)) else .error .tooSmall
  else if n < 9223372036854775808 then .ok n else .error .tooLarge

/-- A number in digits of a base, behind a mark that tells the base. -/
def readIntegerIn (base : Nat) (markChars : List Char) (name : String) : Reader Int :=
  settled <| check (inPart name do word markChars; settled (readDigits isDigit))
    fun ds => signed false (digitsValue base ds)
where
  isDigit (c : Char) : Bool := (hexValue? c).any (· < base)

def readDecimalInteger : Reader Int := fun cs =>
  match readDecimal cs with
  | .error stop => .error stop
  | .ok ((isNegative, ds), rest) =>
    match signed isNegative (digitsValue 10 ds) with
    | .ok n => .ok (n, rest)
    | .error cause => .error { rest := cs, isFinal := true, cause := some cause }

def readInteger : Reader Int := fun cs =>
  match cs with
  | '0' :: 'x' :: _ => readIntegerIn 16 ['0', 'x'] "hexadecimal integer" cs
  | '0' :: 'o' :: _ => readIntegerIn 8 ['0', 'o'] "octal integer" cs
  | '0' :: 'b' :: _ => readIntegerIn 2 ['0', 'b'] "binary integer" cs
  | _ => readDecimalInteger cs

/-! ## Doubles -/

/-- The double nearest to `digits * 10 ^ power`. Powers that leave no doubt are not computed. -/
def nearest (isNegative : Bool) (digits : Nat) (power : Int) : Double :=
  let found :=
    if digits = 0 ∨ power < -400 - (digits.log2 : Int) then some (.zero isNegative)
    else if 400 < power then none
    else if 0 ≤ power then
      Decimal.Binary64.ofRatio? isNegative (digits * Nat.pow 10 power.toNat) 1
    else Decimal.Binary64.ofRatio? isNegative digits (Nat.pow 10 (-power).toNat)
  match found with
  | some x => .finite x
  | none => .infinite isNegative

/-- An exponent behind its letter. -/
def readExponent : Reader Int := do
  let _ ← one fun c => c == 'e' || c == 'E'
  let isNegative ← readSign
  let n := digitsValue 10 (← settled (readDigits Char.isDigit))
  pure (if isNegative then -(n : Int) else n)

/-- A fraction behind its point. -/
def readFraction : Reader (List Char) := do
  let _ ← mark '.'
  expecting ["digit"] (settled (readDigits Char.isDigit))

/-- The fraction and the exponent, at least one of which is there. -/
def readFractionOrExponent : Reader (List Char × Int) :=
  firstOf (do let e ← readExponent; pure ([], e)) do
    let f ← readFraction
    let e ← attempt readExponent
    pure (f, e.getD 0)

/-- A double by its digits. -/
def readFiniteDouble : Reader Double := fun cs =>
  let parts : Reader (Bool × List Char × List Char × Int) := do
    let (isNegative, whole) ← readDecimal
    let (f, e) ← readFractionOrExponent
    pure (isNegative, whole, f, e)
  match parts cs with
  | .error stop => .error stop
  | .ok ((isNegative, whole, f, e), rest) =>
    let x := nearest isNegative (digitsValue 10 (whole ++ f)) (e - f.length)
    if x = .infinite false then .error { rest := cs, isFinal := true } else .ok (x, rest)

def readInfinity : Reader Unit := word ['i', 'n', 'f']

def readNotANumber : Reader Unit := word ['n', 'a', 'n']

/-- One of the doubles that are not finite. -/
def readWordDouble : Reader Double := do
  let isNegative ← readSign
  firstOf (do readInfinity; pure (.infinite isNegative)) (do readNotANumber; pure .nan)

def readDouble : Reader Double :=
  inPart "floating-point number" (firstOf readFiniteDouble readWordDouble)

end SchemaRegistry.Toml
