import PageSession.Text.Blank
import PageSession.Text.Unsigned

/-!
# Points in time with an offset

A date, a time of day and an offset from universal time, in the notation of
RFC 3339 with some leeway: blanks between the parts, numbers of fewer digits,
and a space or either case of T between date and time.
-/

namespace PageSession

namespace Timestamp

/-- Reading a part of a text: what it says, and the rest. -/
abbrev Part (α : Type) := List Char → Option (α × List Char)

def skipBlanks (chars : List Char) : List Char :=
  chars.dropWhile Text.isBlank

/-- One to `width` digits, after blanks. -/
def number (width : Nat) : Part Nat := fun chars =>
  let chars := skipBlanks chars
  let digits := (chars.take width).takeWhile Char.isDigit
  if digits.isEmpty then none else some (Text.digitsValue digits, chars.drop digits.length)

/-- A mark, after blanks. -/
def mark (wanted : Char) : Part Unit := fun chars =>
  match skipBlanks chars with
  | char :: rest => if char = wanted then some ((), rest) else none
  | [] => none

/-- Digits of any number, at least one. -/
def longNumber : Part Nat := fun chars =>
  let digits := chars.takeWhile Char.isDigit
  if digits.isEmpty then none else some (Text.digitsValue digits, chars.drop digits.length)

/-- A year: four digits at most, or any number of them after a sign. -/
def year : Part Int := fun chars =>
  match skipBlanks chars with
  | '-' :: rest => (longNumber rest).map fun (value, rest) => (-(value : Int), rest)
  | '+' :: rest => (longNumber rest).map fun (value, rest) => ((value : Int), rest)
  | chars => (number 4 chars).map fun (value, rest) => ((value : Int), rest)

def isLeap (year : Int) : Bool :=
  (year % 4 == 0 && year % 100 != 0) || year % 400 == 0

/-- The number of days of a month. -/
def daysIn (year : Int) (month : Nat) : Nat :=
  if month = 2 then (if isLeap year then 29 else 28)
  else if month = 4 || month = 6 || month = 9 || month = 11 then 30
  else 31

/-- A day of the calendar. -/
structure Day where
  year : Int
  month : Nat
  day : Nat
deriving DecidableEq, Repr

/-- The first day that is told apart from others. -/
def firstDay : Day := ⟨-262143, 1, 1⟩

/-- The last day that is told apart from others. -/
def lastDay : Day := ⟨262142, 12, 31⟩

/-- A day of the calendar. -/
def date : Part Day := fun chars => do
  let (year, chars) ← year chars
  let (_, chars) ← mark '-' chars
  let (month, chars) ← number 2 chars
  let (_, chars) ← mark '-' chars
  let (day, chars) ← number 2 chars
  if firstDay.year ≤ year && year ≤ lastDay.year && 1 ≤ month && month ≤ 12 && 1 ≤ day
      && day ≤ daysIn year month then
    some (⟨year, month, day⟩, chars)
  else none

/-- The letter or blank between date and time. -/
def separator : Part Unit := fun chars =>
  match chars with
  | char :: rest => if char = 'T' || char = 't' || char = ' ' then some ((), rest) else none
  | [] => none

/-- Decimals of a second, if there is a point, in billionths; further digits are
dropped. -/
def fraction : Part Nat := fun chars =>
  match chars with
  | '.' :: rest =>
      let digits := rest.takeWhile Char.isDigit
      let kept := digits.take 9
      if digits.isEmpty then none
      else
        some (Text.digitsValue (kept ++ List.replicate (9 - kept.length) '0'),
          rest.drop digits.length)
  | chars => some (0, chars)

/-- A time of day. -/
structure Clock where
  seconds : Nat
  /-- Billionths of a second; they go on past a second in a second number 60. -/
  billionths : Nat
deriving DecidableEq, Repr

def secondLength : Nat := 1000000000

/-- A time of day; a minute may have a second number 60, which is counted as the one
before it. -/
def timeOfDay : Part Clock := fun chars => do
  let (hour, chars) ← number 2 chars
  let (_, chars) ← mark ':' chars
  let (minute, chars) ← number 2 chars
  let (_, chars) ← mark ':' chars
  let (second, chars) ← number 2 chars
  let (billionths, chars) ← fraction chars
  if hour ≤ 23 && minute ≤ 59 && second ≤ 60 then
    some (⟨3600 * hour + 60 * minute + min second 59,
      billionths + if second = 60 then secondLength else 0⟩, chars)
  else none

/-- Two digits. -/
def twoDigits : Part Nat := fun chars =>
  match chars with
  | first :: second :: rest =>
      if first.isDigit && second.isDigit then
        some (10 * Text.digitValue first + Text.digitValue second, rest)
      else none
  | _ => none

def isMinusOrPlus (char : Char) : Bool :=
  char = '+' || char = '-' || char = '\u2212'

def isGap (char : Char) : Bool :=
  char = ':' || Text.isBlank char

/-- The offset in seconds: Z, UTC, or a sign with hours and minutes below a
day. -/
def offset : Part Int := fun chars =>
  match skipBlanks chars with
  | 'Z' :: rest | 'z' :: rest => some (0, rest)
  | chars =>
      if (chars.take 3).map Char.toLower = ['u', 't', 'c'] then some (0, chars.drop 3)
      else
        match chars with
        | sign :: rest =>
            if isMinusOrPlus sign then do
              let (hours, rest) ← twoDigits rest
              let (minutes, rest) ← twoDigits (rest.dropWhile isGap)
              let seconds : Int := 3600 * hours + 60 * minutes
              if hours ≤ 23 && minutes ≤ 59 then
                some (if sign = '+' then seconds else -seconds, rest)
              else none
            else none
        | [] => none

/-- The seconds of a day. -/
def secondsOfDay : Nat := 86400

/-- A point in time by the clocks of an offset. -/
structure Moment where
  day : Day
  clock : Clock
  offset : Int
deriving DecidableEq, Repr

namespace Moment

/-- The second of the day by universal time, which may be one of the day before or
after. -/
def universal (moment : Moment) : Int :=
  moment.clock.seconds - moment.offset

/-- Whether the moment lies within the known days by universal time too. -/
def withinDays (moment : Moment) : Bool :=
  (0 ≤ moment.universal || moment.day != firstDay)
    && (moment.universal < secondsOfDay || moment.day != lastDay)

end Moment

/-- The point in time that a text says. -/
def moment? (text : String) : Option Moment := do
  let (day, chars) ← date text.toList
  let (_, chars) ← separator chars
  let (clock, chars) ← timeOfDay chars
  let (offset, chars) ← offset chars
  let moment : Moment := { day, clock, offset }
  if moment.withinDays && (skipBlanks chars).isEmpty then some moment else none

/-- Whether a text is a point in time. -/
def valid (text : String) : Bool :=
  (moment? text).isSome

/-! ## Writing -/

/-- A number in some digits at least. -/
def padded (width value : Nat) : String :=
  let digits := Text.digits value
  String.ofList (List.replicate (width - digits.length) '0' ++ digits)

namespace Day

def next (day : Day) : Day :=
  if day.day < daysIn day.year day.month then { day with day := day.day + 1 }
  else if day.month < 12 then { day with month := day.month + 1, day := 1 }
  else ⟨day.year + 1, 1, 1⟩

def previous (day : Day) : Day :=
  if 1 < day.day then { day with day := day.day - 1 }
  else if 1 < day.month then
    { day with month := day.month - 1, day := daysIn day.year (day.month - 1) }
  else ⟨day.year - 1, 12, 31⟩

/-- A year has a sign unless it has four digits. -/
def yearText (year : Int) : String :=
  if 0 ≤ year && year ≤ 9999 then padded 4 year.toNat
  else (if 0 ≤ year then "+" else "-") ++ padded 4 year.natAbs

def text (day : Day) : String :=
  yearText day.year ++ "-" ++ padded 2 day.month ++ "-" ++ padded 2 day.day

end Day

namespace Clock

/-- The decimals of a second, in groups of three as they are needed. -/
def decimals (billionths : Nat) : String :=
  if billionths = 0 then ""
  else if billionths % 1000000 = 0 then "." ++ padded 3 (billionths / 1000000)
  else if billionths % 1000 = 0 then "." ++ padded 6 (billionths / 1000)
  else "." ++ padded 9 billionths

def text (clock : Clock) : String :=
  padded 2 (clock.seconds / 3600) ++ ":" ++ padded 2 (clock.seconds / 60 % 60) ++ ":"
    ++ padded 2 (clock.seconds % 60 + clock.billionths / secondLength)
    ++ decimals (clock.billionths % secondLength)

end Clock

namespace Moment

/-- The day by universal time. -/
def universalDay (moment : Moment) : Day :=
  if moment.universal < 0 then moment.day.previous
  else if moment.universal < secondsOfDay then moment.day
  else moment.day.next

/-- The moment by universal time. -/
def text (moment : Moment) : String :=
  let clock : Clock :=
    { moment.clock with seconds := (moment.universal % secondsOfDay).toNat }
  moment.universalDay.text ++ "T" ++ clock.text ++ "Z"

end Moment

/-- Year, month and day of a day counted from the beginning of 1970.  Years begin
in March here, so that a leap day is the last of its year. -/
def civil (day : Nat) : Nat × Nat × Nat :=
  let shifted := day + 719468
  let era := shifted / 146097
  let dayOfEra := shifted % 146097
  let yearOfEra := (dayOfEra - dayOfEra / 1460 + dayOfEra / 36524 - dayOfEra / 146096) / 365
  let dayOfYear := dayOfEra - (365 * yearOfEra + yearOfEra / 4 - yearOfEra / 100)
  let monthFromMarch := (5 * dayOfYear + 2) / 153
  let dayOfMonth := dayOfYear - (153 * monthFromMarch + 2) / 5 + 1
  let month := if monthFromMarch < 10 then monthFromMarch + 3 else monthFromMarch - 9
  (yearOfEra + 400 * era + (if month ≤ 2 then 1 else 0), month, dayOfMonth)

/-- The time a number of seconds after the beginning of 1970. -/
def ofSeconds (seconds : Nat) : String :=
  let (year, month, day) := civil (seconds / secondsOfDay)
  let time := seconds % secondsOfDay
  Day.text ⟨year, month, day⟩ ++ "T" ++ Clock.text ⟨time, 0⟩ ++ "Z"

end Timestamp

end PageSession
