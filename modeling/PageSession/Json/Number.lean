import PageSession.Decimal.Shortest

/-!
# JSON numbers

A number is an integer of 64 bits, with or without sign, or a float.  Integers
are written as digits, floats as their shortest digits.
-/

namespace PageSession

namespace Json

/-- A number of a JSON text. -/
inductive Number where
  | integer (value : Int)
  | float (value : Binary64)
deriving DecidableEq, Repr

namespace Number

/-- The least integer that is kept as one. -/
def leastInteger : Int := -0x8000000000000000

/-- The greatest integer that is kept as one. -/
def greatestInteger : Int := 0xFFFFFFFFFFFFFFFF

/-- The characters of an integer. -/
def integerChars (value : Int) : List Char :=
  match value with
  | .ofNat magnitude => Text.digits magnitude
  | .negSucc magnitude => '-' :: Text.digits (magnitude + 1)

/-- The characters of `digits * 10 ^ power`: positional from `1e-5` up to below
`1e16`, always with a point, otherwise with one digit before the point and a
signed exponent. -/
def scaledChars (decimal : Decimal.Scaled) : List Char :=
  let digits := Text.digits decimal.digits
  let point := (digits.length : Int) + decimal.power
  if 0 ≤ decimal.power && point ≤ 16 then
    digits ++ List.replicate decimal.power.toNat '0' ++ ['.', '0']
  else if 0 < point && point ≤ 16 then
    digits.take point.toNat ++ '.' :: digits.drop point.toNat
  else if -5 < point && point ≤ 0 then
    '0' :: '.' :: (List.replicate (-point).toNat '0' ++ digits)
  else
    let mantissa :=
      match digits with
      | [] => []
      | [only] => [only]
      | first :: rest => first :: '.' :: rest
    let exponent := point - 1
    let sign := if exponent < 0 then '-' else '+'
    mantissa ++ 'e' :: sign :: Text.digits exponent.natAbs

/-- The characters of a float. -/
def floatChars (value : Binary64) : List Char :=
  let magnitude :=
    if value.isZero then ['0', '.', '0'] else scaledChars (Decimal.shortest value)
  if value.negative then '-' :: magnitude else magnitude

/-- The characters of a number. -/
def chars : Number → List Char
  | .integer value => integerChars value
  | .float value => floatChars value

end Number

end Json

end PageSession
