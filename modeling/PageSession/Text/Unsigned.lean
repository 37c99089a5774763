/-!
# Unsigned decimal integers

The written form accepted for counts and durations: ASCII digits, possibly
after one plus sign, with any number of leading zeros.
-/

namespace PageSession

namespace Text

/-- The value of a decimal digit. -/
def digitValue (char : Char) : Nat :=
  char.toNat - '0'.toNat

/-- The number written by a list of decimal digits. -/
def digitsValue (digits : List Char) : Nat :=
  digits.foldl (fun value char => 10 * value + digitValue char) 0

/-- Read digits after an optional plus sign; at least one digit is needed. -/
def unsigned? (text : String) : Option Nat :=
  let digits :=
    match text.toList with
    | '+' :: rest => rest
    | chars => chars
  if digits.isEmpty || !digits.all Char.isDigit then none
  else some (digitsValue digits)

/-- The digits of a number, without leading zeros. -/
def digits (value : Nat) : List Char :=
  Nat.toDigits 10 value

/-- The decimal text of a number. -/
def decimal (value : Nat) : String :=
  String.ofList (digits value)

end Text

end PageSession
