/-!
# Labels in ASCII

A label of a domain can be written in ASCII: first the characters of ASCII that
it has, then a hyphen, then where the others go.  These are taken in the order of
their code points and, for one code point, of their places.  Each is written as
the number of steps from the one before, where a step goes to the next place and
from the last place on to the next code point.

A number is written in digits from the lowest up.  Each digit has a threshold;
a digit below its threshold is the last.  The thresholds follow from a bias that
adapts to the numbers written so far.
-/

namespace PageSession

namespace Domain

namespace Punycode

/-! ## Digits and thresholds -/

/-- The number of different digits. -/
def base : Nat := 36

/-- The bias before the first number. -/
def firstBias : Nat := 72

/-- The first code point beyond ASCII. -/
def firstCode : Nat := 0x80

/-- The mark between the characters of ASCII and the numbers. -/
def delimiter : Char := '-'

/-- The digit of a value. -/
def digit (value : Nat) : Char :=
  if value < 26 then Char.ofNat (0x61 + value) else Char.ofNat (0x30 + (value - 26))

/-- The value of a digit in either case. -/
def digitValue? (char : Char) : Option Nat :=
  let code := char.toNat
  if 0x61 ≤ code && code ≤ 0x7A then some (code - 0x61)
  else if 0x41 ≤ code && code ≤ 0x5A then some (code - 0x41)
  else if 0x30 ≤ code && code ≤ 0x39 then some (code - 0x30 + 26)
  else none

/-- The threshold of a digit, where `place` is 36 for the first digit and 36 more
for each that follows. -/
def threshold (place bias : Nat) : Nat :=
  if place ≤ bias then 1 else if bias + 26 ≤ place then 26 else place - bias

theorem threshold_pos (place bias : Nat) : 1 ≤ threshold place bias := by
  unfold threshold
  split
  · omega
  · split <;> omega

theorem threshold_le (place bias : Nat) : threshold place bias ≤ 26 := by
  unfold threshold
  split
  · omega
  · split <;> omega

/-- Divide a number until it is small, counting the divisions in steps of 36. -/
def shrink (number steps : Nat) : Nat × Nat :=
  if 455 < number then shrink (number / 35) (steps + base) else (number, steps)
termination_by number
decreasing_by exact Nat.div_lt_self (by omega) (by omega)

/-- The bias after a number, when so many characters are in place. -/
def adapt (number count : Nat) (isFirst : Bool) : Nat :=
  let scaled := if isFirst then number / 700 else number / 2
  let (rest, steps) := shrink (scaled + scaled / count) 0
  steps + base * rest / (rest + 38)

/-! ## Writing -/

/-- A number in digits, from a place on. -/
def writeNumber (bias place number : Nat) : List Char :=
  let limit := threshold place bias
  if number < limit then [digit number]
  else
    digit (limit + (number - limit) % (base - limit))
      :: writeNumber bias (place + base) ((number - limit) / (base - limit))
termination_by number
decreasing_by
  have positive := threshold_pos place bias
  have bounded := threshold_le place bias
  have shrinks := Nat.div_le_self (number - threshold place bias) (base - threshold place bias)
  simp only [base] at *
  omega

/-- What was written so far. -/
structure Writing where
  written : List Char := []
  /-- The steps since the last number. -/
  steps : Nat := 0
  bias : Nat := firstBias
  /-- The characters that are in place. -/
  count : Nat

/-- Pass a character of the label, when those of a code point are written. -/
def Writing.pass (basicCount code : Nat) (writing : Writing) (char : Char) : Writing :=
  if char.toNat < code then { writing with steps := writing.steps + 1 }
  else if char.toNat = code then
    { written := writing.written ++ writeNumber writing.bias base writing.steps
      steps := 0
      bias := adapt writing.steps (writing.count + 1) (writing.count == basicCount)
      count := writing.count + 1 }
  else writing

/-- Write where the characters of each code point go; the code points before the
given one are done. -/
def writeCodes (label : List Char) (basicCount : Nat) :
    Nat → List Nat → Writing → Writing
  | _, [], writing => writing
  | next, code :: rest, writing =>
      let writing := { writing with
        steps := writing.steps + (code - next) * (writing.count + 1) }
      let writing := label.foldl (Writing.pass basicCount code) writing
      writeCodes label basicCount (code + 1) rest { writing with steps := writing.steps + 1 }

/-- Whether a character belongs to ASCII. -/
def isBasic (char : Char) : Bool :=
  char.toNat < firstCode

/-- A label in ASCII. -/
def encode (label : List Char) : List Char :=
  let basic := label.filter isBasic
  let codes := ((label.filter (!isBasic ·)).map Char.toNat).mergeSort.eraseDups
  basic ++ (if basic.isEmpty then [] else [delimiter])
    ++ (writeCodes label basic.length firstCode codes { count := basic.length }).written

/-! ## Reading -/

/-- The greatest number that is read. -/
def greatest : Nat := 4294967295

/-- What was read so far. -/
structure Reading where
  label : List Char
  code : Nat := firstCode
  /-- Where the last character went, and one more. -/
  start : Nat := 0
  bias : Nat := firstBias
  /-- The number that is read: its value so far added to the start, what the next
  digit is worth, and the place of that digit. -/
  sum : Nat := 0
  worth : Nat := 1
  place : Nat := base

/-- The character of a code point, if it has one. -/
def char? (code : Nat) : Option Char :=
  if code.isValidChar then some (Char.ofNat code) else none

/-- A number has ended: its character is put in. -/
def Reading.putIn (reading : Reading) (sum : Nat) : Option Reading := do
  let count := reading.label.length + 1
  let code := reading.code + sum / count
  let position := sum % count
  let char ← char? code
  some
    { label := reading.label.insertIdx position char
      code
      start := position + 1
      bias := adapt (sum - reading.start) count (reading.start == 0)
      sum := position + 1 }

/-- The next digit. -/
def Reading.next (reading : Reading) (char : Char) : Option Reading := do
  let value ← digitValue? char
  let sum := reading.sum + value * reading.worth
  if greatest < sum then none
  let limit := threshold reading.place reading.bias
  if value < limit then reading.putIn sum
  else
    let worth := reading.worth * (base - limit)
    if greatest < worth then none
    some { reading with sum, worth, place := reading.place + base }

/-- The label that a text in ASCII writes. -/
def decode? (chars : List Char) : Option (List Char) := do
  let behind := (chars.reverse.takeWhile (· != delimiter)).reverse
  let before := chars.take (chars.length - behind.length)
  let start : Reading := { label := before.dropLast }
  let digits := if before.length = 1 then chars else behind
  let reading ← digits.foldlM Reading.next start
  if reading.place = base then some reading.label else none

end Punycode

end Domain

end PageSession
