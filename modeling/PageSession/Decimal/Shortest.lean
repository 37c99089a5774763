import PageSession.Decimal.Binary64
import PageSession.Text.Unsigned

/-!
# Shortest decimal digits of a float

Of all decimals that read back as a given float, the one with the fewest
digits; of those, the nearest; a tie goes to the even last digit.
-/

namespace PageSession

namespace Decimal

/-- A decimal `digits * 10 ^ power`. -/
structure Scaled where
  digits : Nat
  power : Int
deriving DecidableEq, Repr

/-- The open or closed interval of numbers that round to one float, in units
of a common denominator. -/
structure Interval where
  lower : Nat
  value : Nat
  upper : Nat
  denominator : Nat
  closed : Bool

/-- The numbers that round to a positive float: halfway to either neighbour,
the lower one being nearer just above a power of two.  The ends belong to it
when the significand is even. -/
def Interval.of (float : Binary64) : Interval :=
  let significand := float.significand
  let nearLower := significand == Nat.pow 2 52 && Binary64.leastExponent < float.exponent
  let lower := 4 * significand - (if nearLower then 1 else 2)
  let closed := significand % 2 == 0
  let unit := (Binary64.mk false 1 float.exponent).quotient
  { lower := lower * unit.1
    value := 4 * significand * unit.1
    upper := (4 * significand + 2) * unit.1
    denominator := 4 * unit.2
    closed }

/-- A count of grid steps, each `step / scale` units wide, lies within. -/
def Interval.holds (interval : Interval) (step scale count : Nat) : Bool :=
  let position := count * step
  let lower := interval.lower * scale
  let upper := interval.upper * scale
  if interval.closed then lower ≤ position && position ≤ upper
  else lower < position && position < upper

/-- The number of digits in front of the point, `10 ^ (n - 1) ≤ value < 10 ^ n`
for a positive quotient. -/
def magnitude (numerator denominator : Nat) : Int :=
  if denominator ≤ numerator then
    (Text.digits (numerator / denominator)).length
  else
    let length := (Text.digits (denominator / numerator)).length
    if numerator * Nat.pow 10 (length - 1) == denominator then 2 - (length : Int)
    else 1 - (length : Int)

/-- The decimal on the grid of `10 ^ power` that reads back, if one does: of
the two neighbours of the value the nearer, a tie going to the even one. -/
def onGrid? (interval : Interval) (power : Int) : Option Nat :=
  let (step, scale) :=
    match power with
    | .ofNat exponent => (Nat.pow 10 exponent * interval.denominator, 1)
    | .negSucc exponent => (interval.denominator, Nat.pow 10 (exponent + 1))
  let scaled := interval.value * scale
  let below := scaled / step
  let twice := 2 * (scaled % step)
  let nearer :=
    if twice < step then below
    else if step < twice then below + 1
    else if below % 2 == 0 then below
    else below + 1
  let other := if nearer == below then below + 1 else below
  if interval.holds step scale nearer then some nearer
  else if interval.holds step scale other then some other
  else none

/-- Drop a last digit that is zero.  One is enough: a value just below a power
of ten may be nearest to that power, which has one digit more than its grid. -/
def Scaled.dropZero (decimal : Scaled) : Scaled :=
  if decimal.digits % 10 == 0 then { digits := decimal.digits / 10, power := decimal.power + 1 }
  else decimal

/-- Try grids from a number of digits on, at most `tries` of them. -/
def search (interval : Interval) (top : Int) : Nat → Nat → Scaled
  | 0, count => { digits := interval.value / interval.denominator, power := top - count }
  | tries + 1, count =>
      let power := top - count
      match onGrid? interval power with
      | some digits => Scaled.dropZero { digits, power }
      | none => search interval top tries (count + 1)

/-- The shortest decimal of a positive float; 17 digits always suffice. -/
def shortest (float : Binary64) : Scaled :=
  let interval := Interval.of float
  search interval (magnitude interval.value interval.denominator) 17 1

end Decimal

end PageSession
