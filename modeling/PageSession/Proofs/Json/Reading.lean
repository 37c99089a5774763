import PageSession.Proofs.Json.Writing

/-!
# What is read is lawful

Whatever text a value is read from, its integers have 64 bits, its objects list
their members by their keys, and its arrays and objects nest no deeper than a
reader allows.
-/

namespace PageSession.Json

/-! ## Tokens -/

/-- A value that is written as one word. -/
def Value.IsWord (value : Value) : Prop :=
  value.Canonical ∧ value.depth = 0 ∧ value.tokens = [.word (.ok value)]

/-- The value that a token holds, if any, is lawful, and can be skipped as well. -/
def Token.Lawful : Token → Prop
  | .word (.ok value) => value.IsWord
  | .number (.ok taken) skipped => Value.Lawful (.number taken) ∧ skipped = .ok ()
  | .quoted (.ok _) skipped => skipped = .ok ()
  | _ => True

/-- What is being read will be lawful. -/
def Scan.Lawful : Scan → Prop
  | .word _ value => value.IsWord
  | .number numeral _ => numeral.significand ≤ Numeral.capacity
  | _ => True

theorem significand_pushWhole {numeral : Numeral}
    (fits : numeral.significand ≤ Numeral.capacity) (digit : Nat) :
    (numeral.pushWhole digit).significand ≤ Numeral.capacity := by
  unfold Numeral.pushWhole
  simp only
  split
  · exact fits
  · next room =>
      simp only [Bool.or_eq_true, decide_eq_true_eq, not_or, Nat.not_lt] at room
      exact room.2

theorem significand_pushFraction {numeral : Numeral}
    (fits : numeral.significand ≤ Numeral.capacity) (digit : Nat) :
    (numeral.pushFraction digit).significand ≤ Numeral.capacity := by
  unfold Numeral.pushFraction
  simp only
  split
  · exact fits
  · next room =>
      simp only [Bool.or_eq_true, decide_eq_true_eq, not_or, Nat.not_lt] at room
      exact room.2

/-- The significand of a number that goes on keeps to its width. -/
theorem significand_react {numeral next : Numeral} {phase later : NumeralPhase} {char : Char}
    (fits : numeral.significand ≤ Numeral.capacity)
    (grown : numeral.react phase char = .grow next later) :
    next.significand ≤ Numeral.capacity := by
  have whole := significand_pushWhole fits (Text.digitValue char)
  have fraction := significand_pushFraction fits (Text.digitValue char)
  cases phase <;> simp only [Numeral.react] at grown <;> split at grown <;>
    (try split at grown) <;> (try split at grown) <;>
    first
    | contradiction
    | (cases grown; first | exact fits | exact whole | exact fraction)

theorem lawful_number? {numeral : Numeral} {phase : NumeralPhase} {number : Number}
    (fits : numeral.significand ≤ Numeral.capacity)
    (read : numeral.number? phase = some number) : (Value.number number).Lawful := by
  cases number with
  | float value => trivial
  | integer value =>
      unfold Numeral.number? at read
      simp only at read
      have greatest : (Numeral.capacity : Int) = Number.greatestInteger := rfl
      generalize signed : (if numeral.negative then -(numeral.significand : Int)
        else numeral.significand) = sum at read
      have small : sum ≤ Number.greatestInteger := by
        rw [← signed]
        split <;> omega
      split at read
      · next kept =>
          simp only [Bool.and_eq_true, decide_eq_true_eq] at kept
          cases read
          exact ⟨kept.2, small⟩
      · simp at read

theorem lawful_close {numeral : Numeral} (fits : numeral.significand ≤ Numeral.capacity)
    (phase : NumeralPhase) : (numeral.close phase).Lawful := by
  unfold Numeral.close
  split
  · next number read => exact ⟨lawful_number? fits read, rfl⟩
  · trivial

/-- A step completes lawful tokens and leaves a lawful state. -/
def LawfulStep (outcome : List Token × Scan) : Prop :=
  (∀ token ∈ outcome.1, token.Lawful) ∧ outcome.2.Lawful

theorem lawfulStep_silent {scan : Scan} (lawful : scan.Lawful) : LawfulStep ([], scan) :=
  ⟨by simp, lawful⟩

theorem lawfulStep_single {token : Token} {scan : Scan} (now : token.Lawful)
    (lawful : scan.Lawful) : LawfulStep ([token], scan) :=
  ⟨by simpa using now, lawful⟩

theorem lawfulStep_cons {token : Token} {outcome : List Token × Scan} (now : token.Lawful)
    (step : LawfulStep outcome) : LawfulStep (token :: outcome.1, outcome.2) :=
  ⟨List.forall_mem_cons.mpr ⟨now, step.1⟩, step.2⟩

theorem lawfulStep_ite {condition : Prop} [Decidable condition]
    {outcome other : List Token × Scan} (yes : LawfulStep outcome) (no : LawfulStep other) :
    LawfulStep (if condition then outcome else other) := by
  split
  · exact yes
  · exact no

theorem lawfulStep_between (char : Char) : LawfulStep (Scan.betweenStep char) := by
  have null : Value.null.IsWord := by
    simp [Value.IsWord, Value.Canonical, Value.parts, Value.Lawful, Value.depth, Value.tokens]
  have flag : ∀ value, (Value.bool value).IsWord := by
    simp [Value.IsWord, Value.Canonical, Value.parts, Value.Lawful, Value.depth, Value.tokens]
  have number : ∀ negative phase, (Scan.number { negative } phase).Lawful :=
    fun _ _ => Nat.zero_le _
  have digit : (Scan.number (({ negative := false } : Numeral).pushWhole
      (Text.digitValue char)) .whole).Lawful := significand_pushWhole (Nat.zero_le _) _
  unfold Scan.betweenStep
  apply lawfulStep_ite
  · exact lawfulStep_silent trivial
  -- The six marks of structure, then a quote.
  apply lawfulStep_ite
  · exact lawfulStep_single trivial trivial
  apply lawfulStep_ite
  · exact lawfulStep_single trivial trivial
  apply lawfulStep_ite
  · exact lawfulStep_single trivial trivial
  apply lawfulStep_ite
  · exact lawfulStep_single trivial trivial
  apply lawfulStep_ite
  · exact lawfulStep_single trivial trivial
  apply lawfulStep_ite
  · exact lawfulStep_single trivial trivial
  apply lawfulStep_ite
  · exact lawfulStep_silent trivial
  -- The three words.
  apply lawfulStep_ite
  · exact lawfulStep_silent null
  apply lawfulStep_ite
  · exact lawfulStep_silent (flag true)
  apply lawfulStep_ite
  · exact lawfulStep_silent (flag false)
  -- A number.
  apply lawfulStep_ite
  · exact lawfulStep_silent (number _ _)
  apply lawfulStep_ite
  · exact lawfulStep_silent (number _ _)
  apply lawfulStep_ite
  · exact lawfulStep_silent digit
  exact lawfulStep_single trivial trivial

theorem lawfulStep_plain (text : Quoted) (char : Char) : LawfulStep (text.plainStep char) := by
  have closed : text.close.Lawful := by
    unfold Quoted.close
    split <;> trivial
  unfold Quoted.plainStep
  apply lawfulStep_ite
  · exact lawfulStep_single closed trivial
  apply lawfulStep_ite
  · exact lawfulStep_silent trivial
  apply lawfulStep_ite
  · exact lawfulStep_single trivial trivial
  exact lawfulStep_silent trivial

theorem lawfulStep_started (text : Quoted) (char : Char) :
    LawfulStep (text.startedStep char) := by
  unfold Quoted.startedStep
  split
  · exact lawfulStep_silent trivial
  · split
    · exact lawfulStep_silent trivial
    · exact lawfulStep_single trivial trivial

theorem lawfulStep_unit (text : Quoted) (high : Option Nat) (bytes : Nat)
    (value : Option Nat) (char : Char) :
    LawfulStep (text.unitStep high bytes value char) := by
  unfold Quoted.unitStep
  simp only
  split
  · exact lawfulStep_silent trivial
  · split
    · exact lawfulStep_silent trivial
    · exact lawfulStep_single trivial trivial

theorem lawfulStep_quoted (text : Quoted) (char : Char) : LawfulStep (text.step char) := by
  unfold Quoted.step
  split
  · exact lawfulStep_plain text char
  · exact lawfulStep_started text char
  · exact lawfulStep_unit text _ _ _ char
  · split
    · exact lawfulStep_silent trivial
    · exact lawfulStep_plain _ char
  · split
    · exact lawfulStep_silent trivial
    · exact lawfulStep_started _ char

theorem lawfulStep_step {scan : Scan} (lawful : scan.Lawful) (char : Char) :
    LawfulStep (scan.step char) := by
  have between := lawfulStep_between char
  unfold Scan.step
  cases scan with
  | between => exact between
  | halted => exact lawfulStep_silent trivial
  | quoted text => exact lawfulStep_quoted text char
  | word rest value =>
      cases rest with
      | nil => exact lawfulStep_cons lawful between
      | cons expected rest =>
          simp only
          split
          · split
            · exact lawfulStep_single lawful trivial
            · exact lawfulStep_silent lawful
          · exact lawfulStep_single trivial trivial
  | number numeral phase =>
      simp only
      split
      · next numeral phase grown => exact lawfulStep_silent (significand_react lawful grown)
      · exact lawfulStep_cons (lawful_close lawful phase) between
      · exact lawfulStep_single trivial trivial

theorem lawful_finish {scan : Scan} (lawful : scan.Lawful) :
    ∀ token ∈ scan.finish, token.Lawful := by
  unfold Scan.finish
  split
  · simp
  · simpa [Token.Lawful, Scan.Lawful] using lawful
  · simp [Token.Lawful]
  · next numeral phase =>
      split
      · simpa using lawful_close lawful phase
      · simp [Token.Lawful]
  · simp [Quoted.broken, Token.Lawful]
  · simp

theorem lawful_tokens {scan : Scan} (lawful : scan.Lawful) (chars : List Char) :
    ∀ token ∈ scan.tokens chars, token.Lawful := by
  induction chars generalizing scan with
  | nil => exact lawful_finish lawful
  | cons char chars ih =>
      obtain ⟨completed, next⟩ := lawfulStep_step lawful char
      intro token member
      rcases List.mem_append.mp member with now | later
      · exact completed token now
      · exact ih next token later

/-! ## Assemblies -/

/-- A value may stand inside of so many arrays and objects. -/
def Value.Fits (level : Nat) (value : Value) : Prop :=
  value.Canonical ∧ level + value.depth ≤ Assembly.depthLimit

def Members.Fit (level : Nat) (members : Members) : Prop :=
  Members.Ordered members ∧ ∀ member ∈ members, member.2.Fits level

/-- What an open array or object holds already. -/
def Frame.Fits (level : Nat) : Frame → Prop
  | .items reversed => ∀ item ∈ reversed, item.Fits level
  | .members done _ => Members.Fit level done

/-- Every open array or object may stand where it does. -/
def Nested : List Frame → Prop
  | [] => True
  | frame :: stack =>
      frame.Fits (stack.length + 1) ∧ stack.length < Assembly.depthLimit ∧ Nested stack

def Assembly.Fits : Assembly → Prop
  | .awaitValue stack => Nested stack
  | .awaitFirstItem stack => Nested (.items [] :: stack)
  | .awaitFirstKey stack => Nested (.members [] "" :: stack)
  | .awaitKey stack done => Nested (.members done "" :: stack)
  | .awaitColon stack done key => Nested (.members done key :: stack)
  | .afterItem stack reversed => Nested (.items reversed :: stack)
  | .afterMember stack done => Nested (.members done "" :: stack)
  | .complete value => value.Fits 0

variable {assembly next : Assembly} {stack : List Frame} {token : Token}

theorem fits_of_depth_eq_zero {value : Value} {level : Nat} (canonical : value.Canonical)
    (flat : value.depth = 0) (room : level ≤ Assembly.depthLimit) : value.Fits level :=
  ⟨canonical, by omega⟩

theorem Nested.length_le (nested : Nested stack) : stack.length ≤ Assembly.depthLimit := by
  cases stack with
  | nil => exact Nat.zero_le _
  | cons frame stack => exact nested.2.1

theorem fits_deliver {value : Value} (nested : Nested stack)
    (fits : value.Fits stack.length) : (Assembly.deliver value stack).Fits := by
  cases stack with
  | nil => exact fits
  | cons frame stack =>
      obtain ⟨held, room, nested⟩ := nested
      cases frame with
      | items reversed =>
          exact ⟨List.forall_mem_cons.mpr ⟨fits, held⟩, room, nested⟩
      | members done key =>
          obtain ⟨ordered, inner⟩ := held
          refine ⟨⟨ordered_insert ordered key value, ?_⟩, room, nested⟩
          intro member placed
          rcases mem_insert placed with rfl | old
          · exact fits
          · exact inner member old

theorem fits_array {items : List Value} (room : stack.length < Assembly.depthLimit)
    (inner : ∀ item ∈ items, item.Fits (stack.length + 1)) :
    (Value.array items).Fits stack.length := by
  refine ⟨canonical_array.mpr fun item member => (inner item member).1, ?_⟩
  have shallow : itemsDepth items ≤ Assembly.depthLimit - (stack.length + 1) := by
    apply itemsDepth_le_iff.mpr
    intro item member
    have bound := (inner item member).2
    omega
  rw [Value.depth]
  omega

theorem fits_object {members : Members} (room : stack.length < Assembly.depthLimit)
    (inner : Members.Fit (stack.length + 1) members) :
    (Value.object members).Fits stack.length := by
  obtain ⟨ordered, inner⟩ := inner
  refine ⟨canonical_object.mpr ⟨ordered, fun member inside => (inner member inside).1⟩, ?_⟩
  have shallow : membersDepth members ≤ Assembly.depthLimit - (stack.length + 1) := by
    apply membersDepth_le_iff.mpr
    intro member inside
    have bound := (inner member inside).2
    omega
  rw [Value.depth]
  omega

/-- A value begins with its only token, or as an array or object that has room. -/
theorem beginValue_eq_ok (lawful : token.Lawful)
    (begun : Assembly.beginValue (some Assembly.depthLimit) stack token = .ok next) :
    (∃ value : Value, value.tokens = [token] ∧ value.Canonical ∧ value.depth = 0 ∧
        next = Assembly.deliver value stack) ∨
      (token = .openArray ∧ stack.length < Assembly.depthLimit ∧
        next = .awaitFirstItem stack) ∨
      token = .openObject ∧ stack.length < Assembly.depthLimit ∧
        next = .awaitFirstKey stack := by
  cases token with
  | word taken =>
      cases taken with
      | error defect => cases begun
      | ok value =>
          obtain ⟨canonical, flat, single⟩ := lawful
          cases begun
          exact .inl ⟨value, single, canonical, flat, rfl⟩
  | number taken skipped =>
      cases taken with
      | error defect => cases begun
      | ok number =>
          obtain ⟨bounded, rfl⟩ := lawful
          have canonical : (Value.number number).Canonical := by
            simpa [Value.Canonical, Value.parts] using bounded
          cases begun
          exact .inl ⟨.number number, rfl, canonical, rfl, rfl⟩
  | quoted taken skipped =>
      cases taken with
      | error defect => cases begun
      | ok text =>
          have canonical : (Value.string text).Canonical := by
            simp [Value.Canonical, Value.parts, Value.Lawful]
          cases lawful
          cases begun
          exact .inl ⟨.string text, rfl, canonical, rfl, rfl⟩
  | openArray =>
      simp only [Assembly.beginValue, Assembly.hasRoom, decide_eq_true_eq] at begun
      split at begun
      · next room =>
          cases begun
          exact .inr (.inl ⟨rfl, room, rfl⟩)
      · contradiction
  | openObject =>
      simp only [Assembly.beginValue, Assembly.hasRoom, decide_eq_true_eq] at begun
      split at begun
      · next room =>
          cases begun
          exact .inr (.inr ⟨rfl, room, rfl⟩)
      · contradiction
  | _ => cases begun

/-- A value that begins leaves room for itself. -/
theorem fits_beginValue (nested : Nested stack) (lawful : token.Lawful)
    (begun : Assembly.beginValue (some Assembly.depthLimit) stack token = .ok next) :
    next.Fits := by
  rcases beginValue_eq_ok lawful begun with
    ⟨value, -, canonical, flat, rfl⟩ | ⟨-, deeper, rfl⟩ | ⟨-, deeper, rfl⟩
  · exact fits_deliver nested (fits_of_depth_eq_zero canonical flat nested.length_le)
  · exact ⟨by simp [Frame.Fits], deeper, nested⟩
  · exact ⟨by simp [Frame.Fits, Members.Fit, Members.Ordered], deeper, nested⟩

theorem fits_takeKey {done : Members} {key : String}
    (nested : Nested (.members done key :: stack))
    (taken : Assembly.takeKey stack done token = .ok next) : next.Fits := by
  cases token with
  | quoted held skipped =>
      cases held with
      | error defect => simp [Assembly.takeKey, Except.map] at taken
      | ok text =>
          cases taken
          exact nested
  | _ => simp [Assembly.takeKey] at taken

theorem fits_step (fits : assembly.Fits) (lawful : token.Lawful)
    (stepped : assembly.step (some Assembly.depthLimit) token = .ok next) : next.Fits := by
  unfold Assembly.step at stepped
  split at stepped
  · exact fits_beginValue fits lawful stepped
  · cases stepped
    exact fits_deliver fits.2.2 (fits_array fits.2.1 (by simp))
  · exact fits_beginValue fits lawful stepped
  · cases stepped
    exact fits_deliver fits.2.2 (fits_object fits.2.1 fits.1)
  · exact fits_takeKey fits stepped
  · exact fits_takeKey fits stepped
  · cases stepped
    exact fits
  · cases stepped
    exact fits
  · cases stepped
    refine fits_deliver fits.2.2 (fits_array fits.2.1 ?_)
    intro item member
    exact fits.1 item (List.mem_reverse.mp member)
  · cases stepped
    exact fits
  · cases stepped
    exact fits_deliver fits.2.2 (fits_object fits.2.1 fits.1)
  all_goals contradiction

theorem fits_feed {tokens : List Token} (fits : assembly.Fits)
    (lawful : ∀ token ∈ tokens, token.Lawful) (fed : assembly.feed tokens = .ok next) :
    next.Fits := by
  induction tokens generalizing assembly with
  | nil =>
      cases fed
      exact fits
  | cons token tokens ih =>
      obtain ⟨first, rest⟩ := List.forall_mem_cons.mp lawful
      obtain ⟨later, stepped, fed⟩ := feed_cons_eq_ok fed
      exact ih (fits_step fits first stepped) rest fed

/-- A value is read when the tokens of the text put it together. -/
theorem feed_of_read {text : String} {value : Value} (read : Value.read text = .ok value) :
    (Assembly.awaitValue []).feed (Token.scan text) = .ok (.complete value) := by
  cases fed : (Assembly.awaitValue []).feed (Token.scan text) with
  | error defect =>
      rw [Assembly.feed] at fed
      rw [Value.read, fed] at read
      contradiction
  | ok assembly =>
      rw [Assembly.feed] at fed
      rw [Value.read, fed] at read
      change assembly.finish = .ok value at read
      cases assembly with
      | complete held =>
          cases read
          rfl
      | _ => contradiction

/-- A value that is read is canonical, and nests no deeper than is allowed. -/
theorem fits_read {text : String} {value : Value} (read : Value.read text = .ok value) :
    value.Fits 0 := by
  have lawful := lawful_tokens (show Scan.between.Lawful from trivial) text.toList
  exact fits_feed (show (Assembly.awaitValue []).Fits from trivial) lawful (feed_of_read read)

end PageSession.Json
