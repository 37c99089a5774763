import PageSession.Text.Unsigned

/-!
# Durations in messages

A duration is shown in the largest of the units s, ms, µs and ns of which it
holds a whole one, with all decimals and no trailing zeros.
-/

namespace PageSession

namespace Text

/-- The digits of a fraction of `width` places, trailing zeros dropped. -/
def fractionDigits (value width : Nat) : List Char :=
  let written := digits value
  let padded := List.replicate (width - written.length) '0' ++ written
  (padded.reverse.dropWhile (· == '0')).reverse

/-- A count of smaller units, `10 ^ width` to one of the named unit. -/
def inUnit (count width : Nat) (unit : String) : String :=
  let whole := decimal (count / Nat.pow 10 width)
  let fraction := fractionDigits (count % Nat.pow 10 width) width
  if fraction.isEmpty then whole ++ unit
  else whole ++ "." ++ String.ofList fraction ++ unit

/-- The text of a duration given in nanoseconds. -/
def duration (nanoseconds : Nat) : String :=
  if 1000000000 ≤ nanoseconds then inUnit nanoseconds 9 "s"
  else if 1000000 ≤ nanoseconds then inUnit nanoseconds 6 "ms"
  else if 1000 ≤ nanoseconds then inUnit nanoseconds 3 "µs"
  else inUnit nanoseconds 0 "ns"

end Text

end PageSession
