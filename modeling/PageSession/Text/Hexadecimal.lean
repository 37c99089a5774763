/-!
# Hexadecimal digits
-/

namespace PageSession

namespace Text

/-- Lower-case hexadecimal digits of a number. -/
def hexadecimal (value : Nat) : List Char :=
  Nat.toDigits 16 value

/-- A byte in two lower-case hexadecimal digits. -/
def hexadecimalByte (byte : UInt8) : List Char :=
  [Nat.digitChar (byte.toNat / 16), Nat.digitChar (byte.toNat % 16)]

/-- The value of a hexadecimal digit in either case. -/
def hexadecimalValue? (char : Char) : Option Nat :=
  if char.isDigit then some (char.toNat - '0'.toNat)
  else if 'a' ≤ char && char ≤ 'f' then some (char.toNat - 'a'.toNat + 10)
  else if 'A' ≤ char && char ≤ 'F' then some (char.toNat - 'A'.toNat + 10)
  else none

end Text

end PageSession
