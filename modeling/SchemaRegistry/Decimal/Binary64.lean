/-!
# Finite doubles, exactly

A number with a fraction or an exponent is kept as a double, and two such numbers are the same
number exactly when they are the same double. Nothing here uses machine floating point: the
non-negative finite doubles are numbered in ascending order, `0` first, and a double is its place
in that order with a sign. Because of the way the format is laid out, the double `m * 2 ^ q` (with
`q ≥ -1074`, and `m ≥ 2 ^ 52` unless `q = -1074`) has the place `(q + 1074) * 2 ^ 52 + m`, so a
carry out of the mantissa needs no case of its own, and the places from `2047 * 2 ^ 52` on are the
overflow.

Products, quotients and conversions compute the exact value as a ratio and round once, to the
nearest place and, half way between two, to the even one.
-/

set_option autoImplicit false

namespace SchemaRegistry.Decimal

/-- The leading digit of a mantissa, `2 ^ 52`. -/
def Binary64.leadingUnit : Nat := 4503599627370496

/-- How many non-negative finite doubles there are. -/
def Binary64.placeCount : Nat := 2047 * Binary64.leadingUnit

/-- A finite double: a sign and a place among the non-negative ones. Zero has both signs. -/
structure Binary64 where
  negative : Bool
  place : Fin Binary64.placeCount
  deriving DecidableEq

/-- The quotient rounded to the nearest number, a half to the even neighbour. -/
def roundDiv (num den : Nat) : Nat :=
  let below := num / den
  let twice := 2 * (num % den)
  if twice < den then below
  else if den < twice then below + 1
  else if below % 2 = 0 then below
  else below + 1

namespace Binary64

/-- The greatest `e` with `2 ^ e ≤ num / den`, for a positive ratio. -/
def binaryOrder (num den : Nat) : Int :=
  let guess : Int := (num.log2 : Int) - (den.log2 : Int)
  let reached :=
    if 0 ≤ guess then den * Nat.pow 2 guess.toNat ≤ num
    else den ≤ num * Nat.pow 2 (-guess).toNat
  if reached then guess else guess - 1

/-- The place nearest to a ratio. It may lie beyond the last place. -/
def placeOfRatio (num den : Nat) : Nat :=
  if num = 0 then 0
  else
    -- The mantissa gets 53 digits, or fewer where the exponent cannot go lower.
    let q := max (binaryOrder num den - 52) (-1074)
    let m := if 0 ≤ q then roundDiv num (den * Nat.pow 2 q.toNat)
      else roundDiv (num * Nat.pow 2 (-q).toNat) den
    (q + 1074).toNat * leadingUnit + m

/-- The double nearest to a ratio, or nothing where it overflows. -/
def ofRatio? (negative : Bool) (num den : Nat) : Option Binary64 :=
  if h : placeOfRatio num den < placeCount then some ⟨negative, ⟨placeOfRatio num den, h⟩⟩
  else none

/-- The double nearest to a natural number. -/
def ofNat? (n : Nat) : Option Binary64 :=
  ofRatio? false n 1

def zero (negative : Bool) : Binary64 :=
  ⟨negative, ⟨0, by decide⟩⟩

def isZero (x : Binary64) : Bool :=
  x.place.val = 0

/-- The whole number `m` in the value `m * 2 ^ q`. -/
def mantissa (x : Binary64) : Nat :=
  if x.place.val < leadingUnit then x.place.val else leadingUnit + x.place.val % leadingUnit

/-- The exponent `q` in the value `m * 2 ^ q`. -/
def exponent (x : Binary64) : Int :=
  if x.place.val < leadingUnit then -1074 else (x.place.val / leadingUnit : Nat) - 1075

/-- The magnitude times `2 ^ shift`, as a ratio. -/
def scaled (m : Nat) (shift : Int) : Nat × Nat :=
  if 0 ≤ shift then (m * Nat.pow 2 shift.toNat, 1) else (m, Nat.pow 2 (-shift).toNat)

/-- The magnitude as a ratio. -/
def ratio (x : Binary64) : Nat × Nat :=
  scaled x.mantissa x.exponent

/-- The rounded product, or nothing where it overflows. -/
def mul? (x y : Binary64) : Option Binary64 :=
  let (num, den) := scaled (x.mantissa * y.mantissa) (x.exponent + y.exponent)
  ofRatio? (x.negative != y.negative) num den

/-- The rounded quotient by a double that is not zero, or nothing where it overflows. -/
def div? (x y : Binary64) : Option Binary64 :=
  let (num, den) := scaled x.mantissa (x.exponent - y.exponent)
  ofRatio? (x.negative != y.negative) num (den * y.mantissa)

end Binary64

end SchemaRegistry.Decimal
