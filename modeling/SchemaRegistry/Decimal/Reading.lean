import SchemaRegistry.Decimal.Binary64
/-!
# A double from a significand and a power of ten

A decimal numeral is read in two steps: its digits become a significand of at most 64 bits with a
power of ten beside it, and these two become a double. The second step rounds more than once: the
significand, the power of ten and their product or quotient are each rounded to a double, and a
power below `10 ^ -308` is divided away in steps of `10 ^ 308`. So the double that is read is not
always the nearest one to the numeral, and what is nearest cannot replace the steps given here.
-/

set_option autoImplicit false

namespace SchemaRegistry.Decimal

/-- The greatest power of ten that is applied in one step. -/
def stepPower : Nat := 308

/-- `10 ^ n` as a double, for the powers that are doubles. -/
def powerOfTen (n : Nat) : Binary64 :=
  (Binary64.ofNat? (Nat.pow 10 n)).getD (.zero false)

/-- Division by `10 ^ 308`, `count` times. Zero stays what it is. -/
def divideSteps : Nat → Binary64 → Binary64
  | 0, x => x
  | count + 1, x =>
    if x.isZero then x
    else divideSteps count ((x.div? (powerOfTen stepPower)).getD (.zero false))

/-- The magnitude `significand * 10 ^ exponent`, or nothing where it is out of range. -/
def magnitudeOfParts? (significand : Nat) (exponent : Int) : Option Binary64 := do
  let x ← Binary64.ofNat? significand
  if 0 ≤ exponent then
    if exponent.toNat ≤ stepPower then x.mul? (powerOfTen exponent.toNat)
    else if x.isZero then some x
    else none
  else
    let n := (-exponent).toNat
    let steps := (n - 1) / stepPower
    (divideSteps steps x).div? (powerOfTen (n - steps * stepPower))

/-- The double read from the parts of a numeral, or nothing where it is out of range. -/
def ofParts? (negative : Bool) (significand : Nat) (exponent : Int) : Option Binary64 :=
  (magnitudeOfParts? significand exponent).map fun x => { x with negative }

end SchemaRegistry.Decimal
