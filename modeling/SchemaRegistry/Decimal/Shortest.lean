import SchemaRegistry.Decimal.Binary64
/-!
# The fewest digits that name a double

A double is written with as few digits as still single it out. The reals nearer to it than to any
other double form an interval, whose ends belong to it when the mantissa is even. For one digit,
two digits and so on, the two points of that decimal grid next to the value are tried; the first
grid with a point inside the interval gives the digits, and of two such points the nearer one, or
in an exact tie the even one. Looking at the two neighbours is enough: if any point of a grid lies
in the interval, so does one of the two next to the value.
-/

set_option autoImplicit false

namespace SchemaRegistry.Decimal

/-- How many decimal digits a number has. -/
def digitCount (n : Nat) : Nat :=
  (Nat.toDigits 10 n).length

/-- The greatest `k` with `10 ^ k ≤ num / den`, for a positive ratio. -/
def decimalOrder (num den : Nat) : Int :=
  if den ≤ num then (digitCount (num / den) : Int) - 1
  else
    let d := digitCount (den / num)
    if den ≤ num * Nat.pow 10 (d - 1) then -((d - 1 : Nat) : Int) else -(d : Int)

/-- Decimal digits, the first of them at the power of ten `order`. -/
structure Digits where
  digits : List Char
  order : Int
  deriving DecidableEq

/-- An interval around a value, all three over one denominator. -/
structure Surrounding where
  low : Nat
  value : Nat
  high : Nat
  den : Nat
  closed : Bool

namespace Surrounding

/-- The reals that round to a double other than zero. Below a power of two the doubles lie twice as
dense, so there the interval reaches only half as far down. -/
def of (x : Binary64) : Surrounding :=
  let m := x.mantissa
  let reach := if m = Binary64.leadingUnit ∧ x.exponent ≠ -1074 then 1 else 2
  -- Counted in quarters of the last place, half way to a neighbour is a whole number.
  let (unit, den) := Binary64.scaled 1 (x.exponent - 2)
  { low := (4 * m - reach) * unit
    value := 4 * m * unit
    high := (4 * m + 2) * unit
    den
    closed := m % 2 = 0 }

/-- Whether `num / den` lies in the interval. -/
def contains (s : Surrounding) (num den : Nat) : Bool :=
  if s.closed then s.low * den ≤ num * s.den && num * s.den ≤ s.high * den
  else s.low * den < num * s.den && num * s.den < s.high * den

/-- The grid point of `count` digits that names the value, if there is one: the multiple of
`10 ^ (order + 1 - count)` that lies inside, as the number of multiples. -/
def gridPoint? (s : Surrounding) (order : Int) (count : Nat) : Option Nat :=
  let power := order + 1 - (count : Int)
  let (stepNum, stepDen) :=
    if 0 ≤ power then (Nat.pow 10 power.toNat, 1) else (1, Nat.pow 10 (-power).toNat)
  let below := s.value * stepDen / (s.den * stepNum)
  let lowInside := s.contains (below * stepNum) stepDen
  let highInside := s.contains ((below + 1) * stepNum) stepDen
  if lowInside && highInside then some (roundDiv (s.value * stepDen) (s.den * stepNum))
  else if lowInside then some below
  else if highInside then some (below + 1)
  else none

end Surrounding

/-- Without the zeros at the end, but with at least one digit. -/
def dropTrailingZeros (digits : List Char) : List Char :=
  match (digits.reverse.dropWhile (· = '0')).reverse with
  | [] => ['0']
  | kept => kept

/-- The fewest digits that name the magnitude of a double; seventeen are always enough. -/
def shortest (x : Binary64) : Digits :=
  if x.isZero then ⟨['0'], 0⟩
  else
    let s := Surrounding.of x
    let order := decimalOrder s.value s.den
    let found := (List.range 17).findSome? fun i =>
      (s.gridPoint? order (i + 1)).map fun point => (point, i + 1)
    match found with
    | none => ⟨['0'], 0⟩
    | some (point, count) =>
      let digits := Nat.toDigits 10 point
      -- Rounding up to a power of ten makes one digit more than was asked for.
      ⟨dropTrailingZeros digits, order + (digits.length : Int) - (count : Int)⟩

end SchemaRegistry.Decimal
