import PageSession.Json.Number

/-!
# Reading the characters of a number

A numeral is read from left to right.  Its digits go into one significand of
64 bits and a power of ten: whole digits beyond that width only raise the
power, fraction digits beyond it are dropped.  A float is then the rounded
significand times or over rounded powers of ten, in steps of at most
`10 ^ 308`.
-/

namespace PageSession

namespace Json

/-- What has been read of a number. -/
structure Numeral where
  negative : Bool
  significand : Nat := 0
  /-- Power of ten that the significand still needs. -/
  power : Int := 0
  /-- No further digit fits into the significand. -/
  full : Bool := false
  exponentNegative : Bool := false
  exponent : Nat := 0
deriving DecidableEq, Repr

/-- How far the reading of a number has come. -/
inductive NumeralPhase where
  | afterSign
  | zero
  | whole
  | afterPoint
  | fraction
  | afterMark
  | afterMarkSign
  | exponent
deriving DecidableEq, Repr

namespace Numeral

/-- The greatest significand. -/
def capacity : Nat := 0xFFFFFFFFFFFFFFFF

/-- Append a digit in front of the point. -/
def pushWhole (numeral : Numeral) (digit : Nat) : Numeral :=
  let longer := numeral.significand * 10 + digit
  if numeral.full || capacity < longer then
    { numeral with power := numeral.power + 1, full := true }
  else
    { numeral with significand := longer }

/-- Append a digit behind the point. -/
def pushFraction (numeral : Numeral) (digit : Nat) : Numeral :=
  let longer := numeral.significand * 10 + digit
  if numeral.full || capacity < longer then { numeral with full := true }
  else { numeral with significand := longer, power := numeral.power - 1 }

/-- Append a digit of the exponent. -/
def pushExponent (numeral : Numeral) (digit : Nat) : Numeral :=
  { numeral with exponent := numeral.exponent * 10 + digit }

/-- What the next character does to a number that is being read. -/
inductive Reaction where
  /-- It belongs to the number. -/
  | grow (numeral : Numeral) (phase : NumeralPhase)
  /-- The number ended before it. -/
  | finished
  /-- No number continues so. -/
  | misplaced

/-- Take one more character, if the number goes on with it. -/
def react (numeral : Numeral) (phase : NumeralPhase) (char : Char) : Reaction :=
  let digit := Text.digitValue char
  match phase with
  | .afterSign =>
      if char = '0' then .grow numeral .zero
      else if char.isDigit then .grow (numeral.pushWhole digit) .whole
      else .misplaced
  | .zero =>
      if char.isDigit then .misplaced
      else if char = '.' then .grow { numeral with full := false } .afterPoint
      else if char = 'e' || char = 'E' then .grow numeral .afterMark
      else .finished
  | .whole =>
      if char.isDigit then .grow (numeral.pushWhole digit) .whole
      else if char = '.' then .grow { numeral with full := false } .afterPoint
      else if char = 'e' || char = 'E' then .grow numeral .afterMark
      else .finished
  | .afterPoint =>
      if char.isDigit then .grow (numeral.pushFraction digit) .fraction else .misplaced
  | .fraction =>
      if char.isDigit then .grow (numeral.pushFraction digit) .fraction
      else if char = 'e' || char = 'E' then .grow numeral .afterMark
      else .finished
  | .afterMark =>
      if char = '+' then .grow numeral .afterMarkSign
      else if char = '-' then .grow { numeral with exponentNegative := true } .afterMarkSign
      else if char.isDigit then .grow (numeral.pushExponent digit) .exponent
      else .misplaced
  | .afterMarkSign =>
      if char.isDigit then .grow (numeral.pushExponent digit) .exponent else .misplaced
  | .exponent =>
      if char.isDigit then .grow (numeral.pushExponent digit) .exponent else .finished

/-- Whether a number may end in a phase. -/
def NumeralPhase.complete : NumeralPhase → Bool
  | .zero | .whole | .fraction | .exponent => true
  | .afterSign | .afterPoint | .afterMark | .afterMarkSign => false

/-- The greatest power of ten applied in one step. -/
def stride : Nat := 308

/-- Divide by so many strides and a power of ten; zero stays zero. -/
def divide (rest : Nat) : Nat → Binary64 → Option Binary64
  | 0, value => value.overPowerOfTen? rest
  | strides + 1, value =>
      if value.isZero then some value
      else
        match value.overPowerOfTen? stride with
        | none => none
        | some smaller => divide rest strides smaller

/-- A significand times a power of ten, unless it is too large for a float. -/
def float? (negative : Bool) (significand : Nat) (power : Int) : Option Binary64 := do
  let value ← Binary64.nearest? negative significand 1
  match power with
  | .ofNat exponent =>
      if exponent ≤ stride then value.timesPowerOfTen? exponent
      else if value.isZero then some value
      else none
  | .negSucc exponent =>
      let strides := exponent / stride
      divide (exponent + 1 - strides * stride) strides value

/-- The number that a complete numeral stands for, unless it is too large. -/
def number? (numeral : Numeral) (phase : NumeralPhase) : Option Number :=
  let whole := phase == .zero || phase == .whole
  let value : Int :=
    if numeral.negative then -(numeral.significand : Int) else numeral.significand
  let minusZero := numeral.negative && numeral.significand == 0
  if whole && !numeral.full && !minusZero && Number.leastInteger ≤ value then
    some (.integer value)
  else
    let exponent : Int :=
      if numeral.exponentNegative then -(numeral.exponent : Int) else numeral.exponent
    (float? numeral.negative numeral.significand (numeral.power + exponent)).map .float

end Numeral

end Json

end PageSession
