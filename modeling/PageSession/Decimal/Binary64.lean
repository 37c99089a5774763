/-!
# Finite floats of 64 bits

A float is a sign and a magnitude `significand * 2 ^ exponent`.  All arithmetic
is one rule: take the exact quotient of two natural numbers and round it to the
nearest representable magnitude, a tie going to the even significand.
-/

namespace PageSession

/-- A finite float.  Its significand has 53 bits, or fewer at the least
exponent. -/
structure Binary64 where
  negative : Bool
  significand : Nat
  exponent : Int
deriving DecidableEq, Repr

namespace Binary64

/-- The exponent of the smallest magnitudes. -/
def leastExponent : Int := -1074

/-- The exponent of the largest magnitudes. -/
def greatestExponent : Int := 971

/-- Zero with a sign. -/
def zero (negative : Bool) : Binary64 :=
  { negative, significand := 0, exponent := leastExponent }

def isZero (value : Binary64) : Bool :=
  value.significand == 0

/-- Nearest integer to a quotient; a tie goes to the even one. -/
def roundQuotient (numerator denominator : Nat) : Nat :=
  let quotient := numerator / denominator
  let twice := 2 * (numerator % denominator)
  if twice < denominator then quotient
  else if denominator < twice then quotient + 1
  else if quotient % 2 == 0 then quotient
  else quotient + 1

/-- A quotient divided by a power of two, as a quotient again. -/
def scaleDown (numerator denominator : Nat) : Int → Nat × Nat
  | .ofNat power => (numerator, denominator * Nat.pow 2 power)
  | .negSucc power => (numerator * Nat.pow 2 (power + 1), denominator)

/-- The exponent at which a positive quotient has a significand of 53 bits,
kept at or above the least one. -/
def exponentOf (numerator denominator : Nat) : Int :=
  let guess := (numerator.log2 : Int) - (denominator.log2 : Int) - 53
  let scaled := scaleDown numerator denominator guess
  let exact := if Nat.pow 2 53 ≤ scaled.1 / scaled.2 then guess + 1 else guess
  max leastExponent exact

/-- The float nearest to a quotient, unless it is beyond the largest one. -/
def nearest? (negative : Bool) (numerator denominator : Nat) : Option Binary64 :=
  if numerator == 0 then some (zero negative)
  else
    let exponent := exponentOf numerator denominator
    let scaled := scaleDown numerator denominator exponent
    let significand := roundQuotient scaled.1 scaled.2
    let rounded : Binary64 :=
      if significand == Nat.pow 2 53 then
        { negative, significand := Nat.pow 2 52, exponent := exponent + 1 }
      else
        { negative, significand, exponent }
    if greatestExponent < rounded.exponent then none else some rounded

/-- The magnitude of a float as an exact quotient. -/
def quotient (value : Binary64) : Nat × Nat :=
  match value.exponent with
  | .ofNat power => (value.significand * Nat.pow 2 power, 1)
  | .negSucc power => (value.significand, Nat.pow 2 (power + 1))

/-- Rounded product with the float nearest to a power of ten, unless it is
too large. -/
def timesPowerOfTen? (value : Binary64) (power : Nat) : Option Binary64 := do
  let factor ← nearest? false (Nat.pow 10 power) 1
  let (numerator, denominator) := value.quotient
  let (factorNumerator, factorDenominator) := factor.quotient
  nearest? value.negative (numerator * factorNumerator) (denominator * factorDenominator)

/-- Rounded quotient by the float nearest to a power of ten. -/
def overPowerOfTen? (value : Binary64) (power : Nat) : Option Binary64 := do
  let divisor ← nearest? false (Nat.pow 10 power) 1
  let (numerator, denominator) := value.quotient
  let (divisorNumerator, divisorDenominator) := divisor.quotient
  nearest? value.negative (numerator * divisorDenominator) (denominator * divisorNumerator)

end Binary64

end PageSession
