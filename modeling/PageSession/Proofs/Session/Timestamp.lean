import Mathlib.Data.List.Induction
import Mathlib.Data.List.TakeWhile
import PageSession.Session.Timestamp

/-!
# A time that is told can be read

The text of a moment by universal time is a point in time again: its numbers have
the digits that are read, its day is a day of the calendar, and its hours, minutes
and seconds are within bounds, second 60 included.
-/

namespace PageSession.Timestamp

/-! ## Padded numbers -/

variable {width value : Nat} {rest : List Char}

theorem toList_padded (width value : Nat) :
    (padded width value).toList =
      List.replicate (width - (Text.digits value).length) '0' ++ Text.digits value := by
  simp [padded]

theorem isDigit_of_mem_padded {char : Char} (placed : char ∈ (padded width value).toList) :
    char.isDigit = true := by
  rw [toList_padded] at placed
  rcases List.mem_append.mp placed with zero | digit
  · rw [List.eq_of_mem_replicate zero]
    rfl
  · exact Nat.isDigit_of_mem_toDigits (by decide) (by decide) digit

theorem padded_ne_nil (width value : Nat) : (padded width value).toList ≠ [] := by
  rw [toList_padded]
  intro empty
  have none := (List.append_eq_nil_iff.mp empty).2
  exact absurd (congrArg List.length none) (Nat.ne_of_gt Nat.length_toDigits_pos)

theorem length_padded (fits : (Text.digits value).length ≤ width) :
    (padded width value).toList.length = width := by
  rw [toList_padded, List.length_append, List.length_replicate]
  omega

theorem digitsValue_padded (width value : Nat) :
    Text.digitsValue (padded width value).toList = value := by
  have zeros : ∀ count, Text.digitsValue (List.replicate count '0' ++ Text.digits value) =
      Text.digitsValue (Text.digits value) := by
    intro count
    induction count with
    | zero => rfl
    | succ count ih => exact ih
  rw [toList_padded, zeros]
  exact Nat.ofDigitChars_toDigits (by decide) (by decide)

/-! ## Reading them -/

theorem skipBlanks_cons {char : Char} (dark : Text.isBlank char = false) :
    skipBlanks (char :: rest) = char :: rest := by
  simp [skipBlanks, dark]

theorem isDigit_iff {char : Char} :
    char.isDigit = true ↔ 48 ≤ char.toNat ∧ char.toNat ≤ 57 := by
  simp [Char.isDigit, UInt32.le_iff_toNat_le]

theorem isBlank_of_isDigit {char : Char} (digit : char.isDigit = true) :
    Text.isBlank char = false := by
  have bounds := isDigit_iff.mp digit
  simp [Text.isBlank]
  omega

theorem skipBlanks_padded (width value : Nat) (rest : List Char) :
    skipBlanks ((padded width value).toList ++ rest) = (padded width value).toList ++ rest := by
  cases chars : (padded width value).toList with
  | nil => exact absurd chars (padded_ne_nil width value)
  | cons first others =>
      have digit : first.isDigit = true := by
        apply isDigit_of_mem_padded
        rw [chars]
        exact List.mem_cons_self
      exact skipBlanks_cons (isBlank_of_isDigit digit)

theorem number_padded (fits : (Text.digits value).length ≤ width) (rest : List Char) :
    number width ((padded width value).toList ++ rest) = some (value, rest) := by
  have length := length_padded fits
  have taken : (((padded width value).toList ++ rest).take width).takeWhile Char.isDigit =
      (padded width value).toList := by
    rw [List.take_append_of_le_length (by omega), List.take_of_length_le (by omega)]
    exact List.takeWhile_eq_self_iff.mpr fun _ placed => isDigit_of_mem_padded placed
  rw [number]
  simp only [skipBlanks_padded, taken, digitsValue_padded]
  rw [if_neg (by simpa using padded_ne_nil width value), List.drop_left]

theorem number_two (small : value < 100) (rest : List Char) :
    number 2 ((padded 2 value).toList ++ rest) = some (value, rest) := by
  have fits : (Text.digits value).length ≤ 2 :=
    (Nat.length_toDigits_le_iff (by decide) (by decide)).mpr small
  exact number_padded fits rest

theorem number_four (small : value < 10000) (rest : List Char) :
    number 4 ((padded 4 value).toList ++ rest) = some (value, rest) := by
  have fits : (Text.digits value).length ≤ 4 :=
    (Nat.length_toDigits_le_iff (by decide) (by decide)).mpr small
  exact number_padded fits rest

theorem mark_cons {wanted : Char} (dark : Text.isBlank wanted = false) (rest : List Char) :
    mark wanted (wanted :: rest) = some ((), rest) := by
  simp [mark, skipBlanks_cons dark]

/-- Digits before something that is none. -/
theorem takeWhile_padded {next : Char} (stop : next.isDigit = false) (rest : List Char) :
    ((padded width value).toList ++ next :: rest).takeWhile Char.isDigit =
      (padded width value).toList := by
  rw [List.takeWhile_append_of_pos fun _ placed => isDigit_of_mem_padded placed]
  simp [stop]

theorem longNumber_padded {next : Char} (stop : next.isDigit = false) (rest : List Char) :
    longNumber ((padded width value).toList ++ next :: rest) = some (value, next :: rest) := by
  rw [longNumber]
  simp only [takeWhile_padded stop, digitsValue_padded]
  rw [if_neg (by simpa using padded_ne_nil width value), List.drop_left]

/-! ## Days -/

/-- A day of the calendar among those that are told apart. -/
structure Day.Lawful (day : Day) : Prop where
  first : firstDay.year ≤ day.year
  last : day.year ≤ lastDay.year
  month_pos : 1 ≤ day.month
  month_le : day.month ≤ 12
  day_pos : 1 ≤ day.day
  day_le : day.day ≤ daysIn day.year day.month

theorem daysIn_le (year : Int) (month : Nat) : daysIn year month ≤ 31 := by
  unfold daysIn
  split
  · split <;> decide
  · split <;> decide

theorem le_daysIn (year : Int) (month : Nat) : 28 ≤ daysIn year month := by
  unfold daysIn
  split
  · split <;> decide
  · split <;> decide

theorem lawful_of_date {chars : List Char} {day : Day} (read : date chars = some (day, rest)) :
    day.Lawful := by
  simp only [date, Option.bind_eq_bind, Option.bind_eq_some_iff] at read
  obtain ⟨⟨year, _⟩, _, _, _, ⟨month, _⟩, _, _, _, ⟨number, _⟩, _, found⟩ := read
  split at found
  · next within =>
      cases found
      simp only [Bool.and_eq_true, decide_eq_true_eq] at within
      obtain ⟨⟨⟨⟨⟨first, last⟩, monthPos⟩, monthLe⟩, dayPos⟩, dayLe⟩ := within
      exact ⟨first, last, monthPos, monthLe, dayPos, dayLe⟩
  · cases found

theorem year_padded (width value : Nat) (rest : List Char) :
    year ((padded width value).toList ++ rest) =
      (number 4 ((padded width value).toList ++ rest)).map fun (value, rest) =>
        ((value : Int), rest) := by
  cases chars : (padded width value).toList with
  | nil => exact absurd chars (padded_ne_nil width value)
  | cons first others =>
      have digit : first.isDigit = true := by
        apply isDigit_of_mem_padded
        rw [chars]
        exact List.mem_cons_self
      rw [List.cons_append, year, skipBlanks_cons (isBlank_of_isDigit digit)]
      split
      · next same =>
          cases same
          cases digit
      · next same =>
          cases same
          cases digit
      · rfl

theorem year_yearText (value : Int) (rest : List Char) :
    year ((Day.yearText value).toList ++ '-' :: rest) = some (value, '-' :: rest) := by
  have stop : '-'.isDigit = false := rfl
  have minus : ∀ chars, year ('-' :: chars) =
    (longNumber chars).map fun (value, rest) => (-(value : Int), rest) := fun _ => rfl
  have plus : ∀ chars, year ('+' :: chars) =
    (longNumber chars).map fun (value, rest) => ((value : Int), rest) := fun _ => rfl
  rw [Day.yearText]
  split
  · next within =>
      simp only [Bool.and_eq_true, decide_eq_true_eq] at within
      have signless : (value.toNat : Int) = value := Int.toNat_of_nonneg within.1
      rw [year_padded, number_four (by omega)]
      simp [signless]
  · split
    · next positive =>
        have signless : (value.natAbs : Int) = value := Int.natAbs_of_nonneg positive
        have chars : ("+" ++ padded 4 value.natAbs).toList ++ '-' :: rest =
            '+' :: ((padded 4 value.natAbs).toList ++ '-' :: rest) := by simp
        rw [chars, plus, longNumber_padded stop]
        exact congrArg (fun told => some (told, '-' :: rest)) signless
    · next negative =>
        have signless : -(value.natAbs : Int) = value := by omega
        have chars : ("-" ++ padded 4 value.natAbs).toList ++ '-' :: rest =
            '-' :: ((padded 4 value.natAbs).toList ++ '-' :: rest) := by simp
        rw [chars, minus, longNumber_padded stop]
        exact congrArg (fun told => some (told, '-' :: rest)) signless

theorem date_text {day : Day} (lawful : day.Lawful) (rest : List Char) :
    date (day.text.toList ++ rest) = some (day, rest) := by
  have dayLe := Nat.le_trans lawful.day_le (daysIn_le day.year day.month)
  have monthLe := lawful.month_le
  have dash : ∀ more, mark '-' ('-' :: more) = some ((), more) := mark_cons (by decide)
  have month : ∀ more, number 2 ((padded 2 day.month).toList ++ more) = some (day.month, more) :=
    number_two (by omega)
  have number : ∀ more, number 2 ((padded 2 day.day).toList ++ more) = some (day.day, more) :=
    number_two (by omega)
  have chars : day.text.toList ++ rest = (Day.yearText day.year).toList ++ '-' ::
      ((padded 2 day.month).toList ++ '-' :: ((padded 2 day.day).toList ++ rest)) := by
    simp [Day.text]
  rw [chars, date]
  simp [year_yearText, dash, month, number, lawful.first, lawful.last, lawful.month_pos, monthLe,
    lawful.day_pos, lawful.day_le]

theorem Day.Lawful.next {day : Day} (lawful : day.Lawful) (notLast : day ≠ lastDay) :
    day.next.Lawful := by
  obtain ⟨first, last, monthPos, monthLe, dayPos, dayLe⟩ := lawful
  unfold Day.next
  split
  · next inside => constructor <;> simp only <;> omega
  · next ends =>
      split
      · next early =>
          have enough := le_daysIn day.year (day.month + 1)
          constructor <;> simp only <;> omega
      · next late =>
          have december : day.month = 12 := by omega
          have days : daysIn day.year day.month = 31 := by simp [daysIn, december]
          have before : day.year ≠ lastDay.year := by
            intro same
            apply notLast
            obtain ⟨year, month, number⟩ := day
            simp only [lastDay, Day.mk.injEq] at *
            omega
          have enough := le_daysIn (day.year + 1) 1
          constructor <;> simp only <;> omega

theorem Day.Lawful.previous {day : Day} (lawful : day.Lawful) (notFirst : day ≠ firstDay) :
    day.previous.Lawful := by
  obtain ⟨first, last, monthPos, monthLe, dayPos, dayLe⟩ := lawful
  unfold Day.previous
  split
  · next inside => constructor <;> simp only <;> omega
  · next begins =>
      split
      · next late =>
          have enough := le_daysIn day.year (day.month - 1)
          constructor <;> simp only <;> omega
      · next early =>
          have after : day.year ≠ firstDay.year := by
            intro same
            apply notFirst
            obtain ⟨year, month, number⟩ := day
            simp only [firstDay, Day.mk.injEq] at *
            omega
          have days : daysIn (day.year - 1) 12 = 31 := by simp [daysIn]
          constructor <;> simp only <;> omega

/-! ## Clocks -/

/-- A time of day, with a second number 60 at most. -/
structure Clock.Lawful (clock : Clock) : Prop where
  seconds : clock.seconds < secondsOfDay
  billionths : clock.billionths < 2 * secondLength

theorem digitsValue_lt {digits : List Char} (all : ∀ char ∈ digits, char.isDigit = true) :
    Text.digitsValue digits < Nat.pow 10 digits.length := by
  induction digits using List.reverseRecOn with
  | nil => decide
  | append_singleton digits last ih =>
      have before := ih fun char placed => all char (List.mem_append_left _ placed)
      have digit : Text.digitValue last ≤ 9 := by
        have bounds := isDigit_iff.mp (all last (by simp))
        have zero : '0'.toNat = 48 := rfl
        simp only [Text.digitValue, zero]
        omega
      have step : Text.digitsValue (digits ++ [last]) =
          10 * Text.digitsValue digits + Text.digitValue last := by
        simp [Text.digitsValue]
      have power : Nat.pow 10 (digits ++ [last]).length = Nat.pow 10 digits.length * 10 := by
        rw [List.length_append]
        rfl
      rw [step, power]
      omega

theorem lt_of_fraction {chars : List Char} {billionths : Nat}
    (read : fraction chars = some (billionths, rest)) : billionths < secondLength := by
  unfold fraction at read
  split at read
  · next digits =>
      dsimp only at read
      split at read
      · cases read
      · cases read
        let kept := (digits.takeWhile Char.isDigit).take 9
        have all : ∀ char ∈ kept ++ List.replicate (9 - kept.length) '0',
            char.isDigit = true := by
          intro char placed
          rcases List.mem_append.mp placed with written | filled
          · exact List.mem_takeWhile_imp (List.mem_of_mem_take written)
          · rw [List.eq_of_mem_replicate filled]
            rfl
        have short : kept.length ≤ 9 := List.length_take_le 9 _
        have length : (kept ++ List.replicate (9 - kept.length) '0').length = 9 := by
          rw [List.length_append, List.length_replicate]
          omega
        have small := digitsValue_lt all
        rwa [length] at small
  · cases read
    decide

theorem lawful_of_timeOfDay {chars : List Char} {clock : Clock}
    (read : timeOfDay chars = some (clock, rest)) : clock.Lawful := by
  simp only [timeOfDay, Option.bind_eq_bind, Option.bind_eq_some_iff] at read
  obtain ⟨⟨hour, _⟩, _, _, _, ⟨minute, _⟩, _, _, _, ⟨second, _⟩, _, ⟨billionths, _⟩, fraction,
    found⟩ := read
  have small := lt_of_fraction fraction
  split at found
  · next within =>
      cases found
      simp only [Bool.and_eq_true, decide_eq_true_eq] at within
      constructor
      · simp only [secondsOfDay]
        omega
      · simp only
        split <;> omega
  · cases found

theorem fraction_decimals (billionths : Nat) :
    ∃ read, fraction ((Clock.decimals billionths).toList ++ ['Z']) = some (read, ['Z']) := by
  have point : ∀ width value, ∃ read,
      fraction ('.' :: ((padded width value).toList ++ ['Z'])) = some (read, ['Z']) := by
    intro width value
    rw [fraction]
    simp only [takeWhile_padded (show 'Z'.isDigit = false from rfl)]
    rw [if_neg (by simpa using padded_ne_nil width value), List.drop_left]
    exact ⟨_, rfl⟩
  unfold Clock.decimals
  split
  · exact ⟨0, rfl⟩
  · split
    · simpa using point 3 (billionths / 1000000)
    · split
      · simpa using point 6 (billionths / 1000)
      · simpa using point 9 billionths

theorem timeOfDay_text {clock : Clock} (lawful : clock.Lawful) :
    ∃ read, timeOfDay (clock.text.toList ++ ['Z']) = some (read, ['Z']) := by
  obtain ⟨seconds, billionths⟩ := lawful
  simp only [secondsOfDay] at seconds
  have carried : clock.billionths / secondLength ≤ 1 := by
    simp only [secondLength] at *
    omega
  have colon : ∀ more, mark ':' (':' :: more) = some ((), more) := mark_cons (by decide)
  have hour := number_two (show clock.seconds / 3600 < 100 by omega)
  have minute := number_two (show clock.seconds / 60 % 60 < 100 by omega)
  have second := number_two
    (show clock.seconds % 60 + clock.billionths / secondLength < 100 by omega)
  obtain ⟨decimals, fraction⟩ := fraction_decimals (clock.billionths % secondLength)
  have chars : clock.text.toList ++ ['Z'] = (padded 2 (clock.seconds / 3600)).toList ++ ':' ::
      ((padded 2 (clock.seconds / 60 % 60)).toList ++ ':' ::
        ((padded 2 (clock.seconds % 60 + clock.billionths / secondLength)).toList ++
          ((Clock.decimals (clock.billionths % secondLength)).toList ++ ['Z']))) := by
    simp [Clock.text]
  have within : (clock.seconds / 3600 ≤ 23 && clock.seconds / 60 % 60 ≤ 59 &&
      clock.seconds % 60 + clock.billionths / secondLength ≤ 60) = true := by
    simp only [Bool.and_eq_true, decide_eq_true_eq]
    omega
  rw [chars, timeOfDay]
  simp only [hour, colon, minute, second, fraction, Option.bind_eq_bind, Option.bind_some,
    within, if_true]
  exact ⟨_, rfl⟩

/-! ## Moments -/

structure Moment.Lawful (moment : Moment) : Prop where
  day : moment.day.Lawful
  clock : moment.clock.Lawful
  within : moment.withinDays

theorem lawful_of_moment? {text : String} {moment : Moment}
    (read : moment? text = some moment) : moment.Lawful := by
  simp only [moment?, Option.bind_eq_bind, Option.bind_eq_some_iff] at read
  obtain ⟨⟨day, _⟩, day', ⟨_, _⟩, _, ⟨clock, _⟩, clock', ⟨offset, _⟩, _, found⟩ := read
  split at found
  · next within =>
      cases found
      exact ⟨lawful_of_date day', lawful_of_timeOfDay clock', (Bool.and_eq_true_iff.mp within).1⟩
  · cases found

theorem Moment.Lawful.universalDay {moment : Moment} (lawful : moment.Lawful) :
    moment.universalDay.Lawful := by
  have within := lawful.within
  simp only [Moment.withinDays, Bool.and_eq_true, Bool.or_eq_true, decide_eq_true_eq,
    bne_iff_ne] at within
  unfold Moment.universalDay
  split
  · next before => exact lawful.day.previous (within.1.resolve_left (by omega))
  · split
    · exact lawful.day
    · next after => exact lawful.day.next (within.2.resolve_left (by omega))

/-- The time of day of a moment by universal time. -/
theorem Moment.Lawful.universalClock {moment : Moment} (lawful : moment.Lawful) :
    Clock.Lawful ⟨(moment.universal % secondsOfDay).toNat, moment.clock.billionths⟩ := by
  constructor
  · have positive : (0 : Int) < secondsOfDay := by decide
    have small := Int.emod_lt_of_pos moment.universal positive
    simp only
    omega
  · exact lawful.clock.billionths

theorem withinDays_universal (day : Day) {clock : Clock} (small : clock.seconds < secondsOfDay) :
    (⟨day, clock, 0⟩ : Moment).withinDays = true := by
  have early : (0 : Int) ≤ clock.seconds - 0 := by omega
  have late : (clock.seconds : Int) - 0 < secondsOfDay := by omega
  simp only [Moment.withinDays, Moment.universal, early, late, decide_true, Bool.true_or,
    Bool.and_true]

theorem moment?_of_parts {text : String} {day : Day} {clock : Clock}
    {dayChars clockChars : List Char}
    (chars : text.toList = dayChars ++ 'T' :: (clockChars ++ ['Z']))
    (days : ∀ rest, date (dayChars ++ rest) = some (day, rest))
    (time : timeOfDay (clockChars ++ ['Z']) = some (clock, ['Z'])) :
    moment? text = some ⟨day, clock, 0⟩ := by
  have separated : separator ('T' :: (clockChars ++ ['Z'])) = some ((), clockChars ++ ['Z']) :=
    rfl
  have zone : offset ['Z'] = some (0, []) := rfl
  have within := withinDays_universal day (lawful_of_timeOfDay time).seconds
  rw [moment?, chars]
  refine Option.bind_eq_some_iff.mpr ⟨_, days _, ?_⟩
  refine Option.bind_eq_some_iff.mpr ⟨_, separated, ?_⟩
  refine Option.bind_eq_some_iff.mpr ⟨_, time, ?_⟩
  refine Option.bind_eq_some_iff.mpr ⟨_, zone, ?_⟩
  exact if_pos (by rw [within]; rfl)

/-- The text of a moment is a point in time. -/
theorem valid_text {moment : Moment} (lawful : moment.Lawful) : valid moment.text = true := by
  obtain ⟨read, time⟩ := timeOfDay_text lawful.universalClock
  have chars : moment.text.toList = moment.universalDay.text.toList ++ 'T' ::
      ((Clock.text ⟨(moment.universal % secondsOfDay).toNat, moment.clock.billionths⟩).toList
        ++ ['Z']) := by
    simp [Moment.text]
  have told := moment?_of_parts chars (date_text lawful.universalDay) time
  rw [valid, told, Option.isSome_some]

end PageSession.Timestamp
