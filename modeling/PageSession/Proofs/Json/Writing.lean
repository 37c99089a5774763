import Mathlib.Tactic.IntervalCases
import PageSession.Json.Reader
import PageSession.Json.Writer
import PageSession.Proofs.Json.Parts

/-!
# What is written is read again

The text of a value without floats splits into the tokens of the value, and the
tokens are put together to the same value, as long as its arrays and objects
nest no deeper than a reader allows.  The members of an object may be written in
any order, and a key more than once: they are read in the order of their keys,
with the last value of each.

A number ends where the next character is none of its own.  In the text of a
value that is always a comma or a closing bracket, the end of a line or of the text.
-/

namespace PageSession.Json

/-! ## Tokens of a value -/

mutual

/-- The tokens of the text of a value. -/
def Value.tokens : Value → List Token
  | .null => [.word (.ok .null)]
  | .bool value => [.word (.ok (.bool value))]
  | .number value => [.number (.ok value) (.ok ())]
  | .string text => [.quoted (.ok text) (.ok ())]
  | .array items => .openArray :: (itemsTokens items ++ [.closeArray])
  | .object members => .openObject :: (membersTokens members ++ [.closeObject])

def itemsTokens : List Value → List Token
  | [] => []
  | [item] => item.tokens
  | item :: rest => item.tokens ++ .comma :: itemsTokens rest

def membersTokens : List (String × Value) → List Token
  | [] => []
  | [(key, value)] => .quoted (.ok key) (.ok ()) :: .colon :: value.tokens
  | (key, value) :: rest =>
      .quoted (.ok key) (.ok ()) :: .colon :: (value.tokens ++ .comma :: membersTokens rest)

end

theorem itemsTokens_cons (item : Value) {items : List Value} (nonempty : items ≠ []) :
    itemsTokens (item :: items) = item.tokens ++ .comma :: itemsTokens items := by
  cases items with
  | nil => exact absurd rfl nonempty
  | cons next others => rfl

theorem membersTokens_cons (key : String) (value : Value) {members : Members}
    (nonempty : members ≠ []) :
    membersTokens ((key, value) :: members) =
      .quoted (.ok key) (.ok ()) :: .colon ::
        (value.tokens ++ .comma :: membersTokens members) := by
  cases members with
  | nil => exact absurd rfl nonempty
  | cons next others => rfl

/-! ## Numbers -/

/-- No number goes on with the next character of a text. -/
def Delimited (rest : List Char) : Prop :=
  ∀ char ∈ rest.head?, char = ',' ∨ char = ']' ∨ char = '\x7d' ∨ char = '\n'

@[simp] theorem delimited_comma (rest : List Char) : Delimited (',' :: rest) := by
  simp [Delimited]

@[simp] theorem delimited_closeArray (rest : List Char) : Delimited (']' :: rest) := by
  simp [Delimited]

@[simp] theorem delimited_closeObject (rest : List Char) : Delimited ('\x7d' :: rest) := by
  simp [Delimited]

theorem tokens_of_step {scan next : Scan} {char : Char} {rest : List Char}
    (step : scan.step char = ([], next)) :
    scan.tokens (char :: rest) = next.tokens rest := by
  simp [Scan.tokens, step]

theorem digitValue_digitChar {digit : Nat} (small : digit < 10) :
    Text.digitValue digit.digitChar = digit := by
  have all : ∀ digit < 10, Text.digitValue digit.digitChar = digit := by decide
  exact all digit small

theorem pushWhole_of_le {numeral : Numeral} {digit : Nat} (room : numeral.full = false)
    (fits : numeral.significand * 10 + digit ≤ Numeral.capacity) :
    numeral.pushWhole digit =
      { numeral with significand := numeral.significand * 10 + digit } := by
  have small : ¬ Numeral.capacity < numeral.significand * 10 + digit := by omega
  simp [Numeral.pushWhole, room, small]

theorem step_whole {numeral : Numeral} {digit : Nat} (small : digit < 10)
    (room : numeral.full = false)
    (fits : numeral.significand * 10 + digit ≤ Numeral.capacity) :
    (Scan.number numeral .whole).step digit.digitChar =
      ([], .number { numeral with significand := numeral.significand * 10 + digit }
        .whole) := by
  simp [Scan.step, Numeral.react, Nat.isDigit_digitChar, small,
    digitValue_digitChar small, pushWhole_of_le room fits]

/-- The first digit of a number begins its whole part. -/
def AwaitsDigit (negative : Bool) (scan : Scan) : Prop :=
  ∀ digit, 0 < digit → digit < 10 →
    scan.step digit.digitChar = ([], .number { negative, significand := digit } .whole)

theorem awaitsDigit_between : AwaitsDigit false .between := by
  intro digit positive small
  interval_cases digit <;> rfl

theorem awaitsDigit_afterSign :
    AwaitsDigit true (.number { negative := true } .afterSign) := by
  intro digit positive small
  interval_cases digit <;> rfl

theorem tokens_digits {negative : Bool} {scan : Scan} (awaits : AwaitsDigit negative scan)
    (rest : List Char) {magnitude : Nat} (positive : 0 < magnitude)
    (fits : magnitude ≤ Numeral.capacity) :
    scan.tokens (Text.digits magnitude ++ rest) =
      (Scan.number { negative, significand := magnitude } .whole).tokens rest := by
  unfold Text.digits
  induction magnitude using Nat.strongRecOn generalizing rest with
  | ind magnitude ih =>
      rcases Nat.lt_or_ge magnitude 10 with small | large
      · rw [Nat.toDigits_of_lt_base small, List.singleton_append]
        exact tokens_of_step (awaits magnitude positive small)
      · have last : magnitude % 10 < 10 := Nat.mod_lt _ (by decide)
        have whole : magnitude / 10 * 10 + magnitude % 10 = magnitude :=
          Nat.div_add_mod' ..
        rw [Nat.toDigits_of_base_le (by decide) large, List.append_assoc,
          ih (magnitude / 10) (by omega) _ (by omega) (by omega), List.singleton_append,
          tokens_of_step (step_whole last rfl (by simpa [whole] using fits))]
        simp only [whole]

theorem tokens_number {numeral : Numeral} {phase : NumeralPhase} {rest : List Char}
    (ends : phase = .zero ∨ phase = .whole) (delimited : Delimited rest) :
    (Scan.number numeral phase).tokens rest =
      numeral.close phase :: Scan.between.tokens rest := by
  cases rest with
  | nil => rcases ends with rfl | rfl <;> rfl
  | cons char rest =>
      have finished : numeral.react phase char = .finished := by
        rcases delimited char rfl with rfl | rfl | rfl | rfl <;>
          rcases ends with rfl | rfl <;> rfl
      simp [Scan.tokens, Scan.step, finished]

theorem close_integer {negative : Bool} {magnitude : Nat} {phase : NumeralPhase}
    {value : Int} (ends : phase = .zero ∨ phase = .whole)
    (signed : value = if negative then -(magnitude : Int) else magnitude)
    (proper : negative = true → 0 < magnitude) (least : Number.leastInteger ≤ value) :
    ({ negative, significand := magnitude } : Numeral).close phase =
      .number (.ok (.integer value)) (.ok ()) := by
  have whole : (phase == .zero || phase == .whole) = true := by
    rcases ends with rfl | rfl <;> rfl
  have notMinusZero : (negative && magnitude == 0) = false := by
    cases negative with
    | false => rfl
    | true => simp [Nat.ne_of_gt (proper rfl)]
  have read : ({ negative, significand := magnitude } : Numeral).number? phase =
      some (.integer value) := by
    simp [Numeral.number?, whole, notMinusZero, ← signed, least]
  simp [Numeral.close, read]

theorem tokens_natural {magnitude : Nat} {rest : List Char}
    (fits : magnitude ≤ Numeral.capacity) (delimited : Delimited rest) :
    Scan.between.tokens (Text.digits magnitude ++ rest) =
      .number (.ok (.integer magnitude)) (.ok ()) :: Scan.between.tokens rest := by
  have least : Number.leastInteger ≤ magnitude := by
    simp only [Number.leastInteger]
    omega
  have closed : ∀ {phase}, phase = .zero ∨ phase = .whole →
      ({ negative := false, significand := magnitude } : Numeral).close phase =
        .number (.ok (.integer magnitude)) (.ok ()) :=
    fun ends => close_integer ends rfl nofun least
  rcases Nat.eq_zero_or_pos magnitude with rfl | positive
  · have zero : Scan.between.tokens (Text.digits 0 ++ rest) =
        (Scan.number { negative := false } .zero).tokens rest := rfl
    rw [zero, tokens_number (.inl rfl) delimited]
    exact congrArg (· :: _) (closed (.inl rfl))
  · rw [tokens_digits awaitsDigit_between rest positive fits,
      tokens_number (.inr rfl) delimited, closed (.inr rfl)]

theorem tokens_negative {magnitude : Nat} {rest : List Char}
    (least : Number.leastInteger ≤ Int.negSucc magnitude) (delimited : Delimited rest) :
    Scan.between.tokens ('-' :: (Text.digits (magnitude + 1) ++ rest)) =
      .number (.ok (.integer (.negSucc magnitude))) (.ok ()) :: Scan.between.tokens rest := by
  have fits : magnitude + 1 ≤ Numeral.capacity := by
    simp only [Number.leastInteger, Numeral.capacity] at least ⊢
    omega
  have sign : Scan.between.step '-' = ([], .number { negative := true } .afterSign) := rfl
  rw [tokens_of_step sign, tokens_digits awaitsDigit_afterSign rest (by omega) fits,
    tokens_number (.inr rfl) delimited,
    close_integer (.inr rfl) (Int.negSucc_eq magnitude) (by simp) least]

theorem tokens_integer {value : Int} {rest : List Char}
    (least : Number.leastInteger ≤ value) (greatest : value ≤ Number.greatestInteger)
    (delimited : Delimited rest) :
    Scan.between.tokens (Number.integerChars value ++ rest) =
      .number (.ok (.integer value)) (.ok ()) :: Scan.between.tokens rest := by
  cases value with
  | ofNat magnitude =>
      have fits : magnitude ≤ Numeral.capacity := Int.ofNat_le.mp greatest
      exact tokens_natural fits delimited
  | negSucc magnitude => exact tokens_negative least delimited

/-! ## Texts -/

theorem hexadecimalValue?_hexDigit {digit : Nat} (small : digit < 16) :
    Text.hexadecimalValue? (hexDigit digit) = some digit ∧
      (hexDigit digit).utf8Size = 1 := by
  have all : ∀ digit < 16, Text.hexadecimalValue? (hexDigit digit) = some digit ∧
      (hexDigit digit).utf8Size = 1 := by decide
  exact all digit small

/-- A control character is read again from the code unit that stands for it. -/
theorem tokens_codeUnit {char : Char} (control : char.toNat < 0x20)
    (reversed rest : List Char) :
    (Scan.quoted { reversed }).tokens
        ('\\' :: 'u' :: '0' :: '0' :: hexDigit (char.toNat / 16) ::
          hexDigit (char.toNat % 16) :: rest) =
      (Scan.quoted { reversed := char :: reversed }).tokens rest := by
  obtain ⟨high, highSize⟩ := hexadecimalValue?_hexDigit
    (show char.toNat / 16 < 16 by omega)
  obtain ⟨low, lowSize⟩ := hexadecimalValue?_hexDigit
    (show char.toNat % 16 < 16 by omega)
  have started : (Scan.quoted { reversed }).tokens
        ('\\' :: 'u' :: '0' :: '0' :: hexDigit (char.toNat / 16) ::
          hexDigit (char.toNat % 16) :: rest) =
      (Scan.quoted { reversed, escape := .unit none 2 (some 0) }).tokens
        (hexDigit (char.toNat / 16) :: hexDigit (char.toNat % 16) :: rest) := rfl
  have whole : 16 * (char.toNat / 16) + char.toNat % 16 = char.toNat :=
    Nat.div_add_mod ..
  have first : (Scan.quoted { reversed, escape := .unit none 2 (some 0) }).step
      (hexDigit (char.toNat / 16)) =
      ([], .quoted { reversed, escape := .unit none 3 (some (char.toNat / 16)) }) := by
    simp [Scan.step, Quoted.step, Quoted.unitStep, high, highSize]
  have second : (Scan.quoted
      { reversed, escape := .unit none 3 (some (char.toNat / 16)) }).step
      (hexDigit (char.toNat % 16)) =
      ([], .quoted { reversed := char :: reversed }) := by
    have alone : ¬ 0xDC00 ≤ char.toNat := by omega
    have single : ¬ 0xD800 ≤ char.toNat := by omega
    simp [Scan.step, Quoted.step, Quoted.unitStep, low, lowSize, whole, Quoted.pushUnit,
      alone, single, Quoted.push]
  rw [started, tokens_of_step first, tokens_of_step second]

theorem tokens_escapeChar (char : Char) (reversed rest : List Char) :
    (Scan.quoted { reversed }).tokens (escapeChar char ++ rest) =
      (Scan.quoted { reversed := char :: reversed }).tokens rest := by
  unfold escapeChar
  split
  next quote => subst quote; rfl
  split
  next backslash => subst backslash; rfl
  split
  next backspace => subst backspace; rfl
  split
  next formFeed => subst formFeed; rfl
  split
  next newline => subst newline; rfl
  split
  next carriageReturn => subst carriageReturn; rfl
  split
  next tab => subst tab; rfl
  split
  next control => exact tokens_codeUnit control reversed rest
  next noQuote noBackslash _ _ _ _ _ printable =>
    have plain : (Scan.quoted { reversed }).step char =
        ([], .quoted { reversed := char :: reversed }) := by
      simp [Scan.step, Quoted.step, Quoted.plainStep, noQuote, noBackslash, printable,
        Quoted.push]
    rw [List.singleton_append, tokens_of_step plain]

theorem tokens_escaped (chars reversed rest : List Char) :
    (Scan.quoted { reversed }).tokens (chars.flatMap escapeChar ++ rest) =
      (Scan.quoted { reversed := chars.reverse ++ reversed }).tokens rest := by
  induction chars generalizing reversed with
  | nil => rfl
  | cons char chars ih =>
      rw [List.flatMap_cons, List.append_assoc, tokens_escapeChar, ih, List.reverse_cons,
        List.append_assoc, List.singleton_append]

theorem tokens_quotedChars (text : String) (rest : List Char) :
    Scan.between.tokens (quotedChars text ++ rest) =
      .quoted (.ok text) (.ok ()) :: Scan.between.tokens rest := by
  have opened : Scan.between.step '"' = ([], .quoted {}) := rfl
  have closed : (Scan.quoted { reversed := text.toList.reverse ++ [] }).tokens ('"' :: rest) =
      .quoted (.ok text) (.ok ()) :: Scan.between.tokens rest := by
    simp [Scan.tokens, Scan.step, Quoted.step, Quoted.plainStep, Quoted.close]
  rw [quotedChars, List.cons_append, tokens_of_step opened, List.append_assoc,
    List.singleton_append, tokens_escaped, closed]

/-! ## From characters to tokens -/

theorem tokens_openArray (chars : List Char) :
    Scan.between.tokens ('[' :: chars) = .openArray :: Scan.between.tokens chars := rfl

theorem tokens_closeArray (chars : List Char) :
    Scan.between.tokens (']' :: chars) = .closeArray :: Scan.between.tokens chars := rfl

theorem tokens_openObject (chars : List Char) :
    Scan.between.tokens ('\x7b' :: chars) = .openObject :: Scan.between.tokens chars := rfl

theorem tokens_closeObject (chars : List Char) :
    Scan.between.tokens ('\x7d' :: chars) = .closeObject :: Scan.between.tokens chars := rfl

theorem tokens_colon (chars : List Char) :
    Scan.between.tokens (':' :: chars) = .colon :: Scan.between.tokens chars := rfl

theorem tokens_comma (chars : List Char) :
    Scan.between.tokens (',' :: chars) = .comma :: Scan.between.tokens chars := rfl

mutual

theorem tokens_chars (value : Value) (narrow : value.Narrow) (exact : value.Exact)
    {rest : List Char} (delimited : Delimited rest) :
    Scan.between.tokens (value.chars ++ rest) = value.tokens ++ Scan.between.tokens rest := by
  match value with
  | .null => rfl
  | .bool true => rfl
  | .bool false => rfl
  | .number (.integer value) =>
      obtain ⟨least, greatest⟩ := narrow (.number (.integer value)) (by simp [Value.parts])
      exact tokens_integer least greatest delimited
  | .number (.float value) =>
      have float := exact (.number (.float value)) (by simp [Value.parts])
      simp [Value.isFloat] at float
  | .string text => exact tokens_quotedChars text rest
  | .array items =>
      have inner := tokens_itemsChars items (narrow_array.mp narrow) (exact_array.mp exact) rest
      simp [Value.chars, Value.tokens, tokens_openArray, inner]
  | .object members =>
      have inner := tokens_membersChars members (narrow_object.mp narrow)
        (exact_object.mp exact) rest
      simp [Value.chars, Value.tokens, tokens_openObject, inner]

theorem tokens_itemsChars (items : List Value) (narrow : ∀ item ∈ items, item.Narrow)
    (exact : ∀ item ∈ items, item.Exact) (rest : List Char) :
    Scan.between.tokens (itemsChars items ++ ']' :: rest) =
      itemsTokens items ++ .closeArray :: Scan.between.tokens rest := by
  match items with
  | [] => rfl
  | [item] =>
      exact tokens_chars item (List.forall_mem_singleton.mp narrow)
        (List.forall_mem_singleton.mp exact) (delimited_closeArray rest)
  | item :: next :: others =>
      obtain ⟨narrow, narrowLater⟩ := List.forall_mem_cons.mp narrow
      obtain ⟨exact, exactLater⟩ := List.forall_mem_cons.mp exact
      have first := tokens_chars item narrow exact
        (delimited_comma (itemsChars (next :: others) ++ ']' :: rest))
      have later := tokens_itemsChars (next :: others) narrowLater exactLater rest
      have chars : itemsChars (item :: next :: others) =
        item.chars ++ ',' :: itemsChars (next :: others) := rfl
      rw [chars, List.append_assoc, List.cons_append, first, tokens_comma, later,
        itemsTokens_cons item (List.cons_ne_nil next others), List.append_assoc, List.cons_append]

theorem tokens_membersChars (members : List (String × Value))
    (narrow : ∀ member ∈ members, member.2.Narrow)
    (exact : ∀ member ∈ members, member.2.Exact) (rest : List Char) :
    Scan.between.tokens (membersChars members ++ '\x7d' :: rest) =
      membersTokens members ++ .closeObject :: Scan.between.tokens rest := by
  match members with
  | [] => rfl
  | [(key, value)] =>
      have first := tokens_chars value (narrow _ List.mem_cons_self)
        (exact _ List.mem_cons_self) (delimited_closeObject rest)
      rw [membersChars, List.append_assoc, tokens_quotedChars, List.cons_append, tokens_colon,
        first]
      rfl
  | (key, value) :: next :: others =>
      obtain ⟨narrow, narrowLater⟩ := List.forall_mem_cons.mp narrow
      obtain ⟨exact, exactLater⟩ := List.forall_mem_cons.mp exact
      have first := tokens_chars value narrow exact
        (delimited_comma (membersChars (next :: others) ++ '\x7d' :: rest))
      have later := tokens_membersChars (next :: others) narrowLater exactLater rest
      have chars : membersChars ((key, value) :: next :: others) =
        quotedChars key ++ ':' :: (value.chars ++ ',' :: membersChars (next :: others)) := rfl
      rw [chars, List.append_assoc, tokens_quotedChars, List.cons_append, tokens_colon,
        List.append_assoc, List.cons_append, first, tokens_comma, later,
        membersTokens_cons key value (List.cons_ne_nil next others)]
      simp only [List.cons_append, List.append_assoc]

end

/-! ## From tokens to the value -/

/-- The members with others put to them one after the other. -/
def Members.insertAll (done : Members) (pairs : List (String × Value)) : Members :=
  pairs.foldl (fun members pair => Members.insert pair.1 pair.2 members) done

mutual

/-- A value as it is read: with the members of every object in the order of their keys,
and of a repeated key the last one only. -/
def Value.sorted : Value → Value
  | .array items => .array (itemsSorted items)
  | .object members => .object (Members.ofList (membersSorted members))
  | other => other

def itemsSorted : List Value → List Value
  | [] => []
  | item :: rest => item.sorted :: itemsSorted rest

/-- The members in their own order, each with its value as it is read. -/
def membersSorted : List (String × Value) → List (String × Value)
  | [] => []
  | (key, value) :: rest => (key, value.sorted) :: membersSorted rest

end

/-- A key behind all others is put at the end. -/
theorem insert_of_forall_lt {key : String} {value : Value} {members : Members}
    (behind : ∀ member ∈ members, member.1 < key) :
    Members.insert key value members = members ++ [(key, value)] := by
  induction members with
  | nil => rfl
  | cons member members ih =>
      obtain ⟨name, held⟩ := member
      simp only [List.mem_cons, forall_eq_or_imp] at behind
      have different : key ≠ name := by
        rintro rfl
        exact String.lt_irrefl _ behind.1
      have later : ¬ key < name := String.lt_asymm behind.1
      simp [Members.insert, different, later, ih behind.2]

/-- No array or object ends with the first token of a value. -/
def Token.Begins : Token → Prop
  | .closeArray | .closeObject => False
  | _ => True

theorem exists_tokens (value : Value) :
    ∃ first rest, value.tokens = first :: rest ∧ first.Begins := by
  cases value <;> exact ⟨_, _, rfl, trivial⟩

/-- What the tokens of a text make of an assembly. -/
def Assembly.feed (assembly : Assembly) (tokens : List Token) : Except Defect Assembly :=
  tokens.foldlM (Assembly.step (some Assembly.depthLimit)) assembly

theorem feed_append {assembly next : Assembly} {tokens : List Token} (more : List Token)
    (fed : assembly.feed tokens = .ok next) :
    assembly.feed (tokens ++ more) = next.feed more := by
  unfold Assembly.feed at fed ⊢
  rw [List.foldlM_append, fed]
  rfl

theorem feed_of_step {assembly next : Assembly} {token : Token} (more : List Token)
    (step : assembly.step (some Assembly.depthLimit) token = .ok next) :
    assembly.feed (token :: more) = next.feed more := by
  unfold Assembly.feed
  rw [List.foldlM_cons, step]
  rfl

theorem feed_cons_eq_ok {assembly final : Assembly} {token : Token} {tokens : List Token}
    (fed : assembly.feed (token :: tokens) = .ok final) :
    ∃ next, assembly.step (some Assembly.depthLimit) token = .ok next ∧
      next.feed tokens = .ok final := by
  cases stepped : assembly.step (some Assembly.depthLimit) token with
  | error defect =>
      rw [Assembly.feed, List.foldlM_cons, stepped] at fed
      contradiction
  | ok next => exact ⟨next, rfl, feed_of_step tokens stepped ▸ fed⟩

/-- The first item of an array is read like the others. -/
theorem feed_firstItem (stack : List Frame) (item : Value) (more : List Token) :
    (Assembly.awaitFirstItem stack).feed (item.tokens ++ more) =
      (Assembly.awaitValue (.items [] :: stack)).feed (item.tokens ++ more) := by
  obtain ⟨first, rest, tokens, begins⟩ := exists_tokens item
  rw [tokens]
  cases first with
  | closeArray => exact begins.elim
  | _ => rfl

theorem hasRoom_of_lt {stack : List Frame} (room : stack.length < Assembly.depthLimit) :
    Assembly.hasRoom (some Assembly.depthLimit) stack = true := by
  simpa [Assembly.hasRoom] using room

theorem feed_openArray {stack : List Frame} (room : stack.length < Assembly.depthLimit)
    (more : List Token) :
    (Assembly.awaitValue stack).feed (.openArray :: more) =
      (Assembly.awaitFirstItem stack).feed more := by
  apply feed_of_step
  simp [Assembly.step, Assembly.beginValue, hasRoom_of_lt room]

theorem feed_openObject {stack : List Frame} (room : stack.length < Assembly.depthLimit)
    (more : List Token) :
    (Assembly.awaitValue stack).feed (.openObject :: more) =
      (Assembly.awaitFirstKey stack).feed more := by
  apply feed_of_step
  simp [Assembly.step, Assembly.beginValue, hasRoom_of_lt room]

mutual

theorem feed_tokens (value : Value) (stack : List Frame)
    (room : stack.length + value.depth ≤ Assembly.depthLimit) :
    (Assembly.awaitValue stack).feed value.tokens =
      .ok (Assembly.deliver value.sorted stack) := by
  match value with
  | .null | .bool _ | .number _ | .string _ => rfl
  | .array items =>
      rw [Value.depth] at room
      rw [Value.tokens, feed_openArray (by omega)]
      have fed := feed_itemsTokens items stack [] room
      match items with
      | [] => rfl
      | [item] => exact (feed_firstItem stack item _).trans (fed (by simp))
      | item :: next :: others =>
          have fed := fed (by simp)
          rw [itemsTokens_cons item (List.cons_ne_nil next others), List.append_assoc] at fed ⊢
          exact (feed_firstItem stack item _).trans fed
  | .object members =>
      rw [Value.depth] at room
      rw [Value.tokens, feed_openObject (by omega)]
      have fed := feed_membersTokens members stack [] room
      match members with
      | [] => rfl
      | [(key, value)] => exact fed (by simp)
      | (key, value) :: next :: others => exact fed (by simp)

theorem feed_itemsTokens (items : List Value) (stack : List Frame) (reversed : List Value)
    (room : stack.length + (itemsDepth items + 1) ≤ Assembly.depthLimit)
    (nonempty : items ≠ []) :
    (Assembly.awaitValue (.items reversed :: stack)).feed
        (itemsTokens items ++ [.closeArray]) =
      .ok (Assembly.deliver (.array (reversed.reverse ++ itemsSorted items)) stack) := by
  match items with
  | [] => exact absurd rfl nonempty
  | item :: rest =>
      rw [itemsDepth] at room
      have fed := feed_tokens item (.items reversed :: stack)
        (by simp only [List.length_cons]; omega)
      have delivered : Assembly.deliver item.sorted (.items reversed :: stack) =
        .afterItem stack (item.sorted :: reversed) := rfl
      rw [delivered] at fed
      have later := feed_itemsTokens rest stack (item.sorted :: reversed) (by omega)
      cases rest with
      | nil =>
          have ended : (Assembly.afterItem stack (item.sorted :: reversed)).feed [.closeArray] =
            .ok (Assembly.deliver (.array (item.sorted :: reversed).reverse) stack) := rfl
          rw [itemsTokens, feed_append _ fed]
          simpa [itemsSorted] using ended
      | cons next others =>
          rw [itemsTokens_cons item (List.cons_ne_nil next others), List.append_assoc,
            feed_append _ fed, List.cons_append, feed_of_step _ rfl]
          simpa [itemsSorted] using later (by simp)

theorem feed_membersTokens (members : List (String × Value)) (stack : List Frame)
    (done : Members)
    (room : stack.length + (membersDepth members + 1) ≤ Assembly.depthLimit)
    (nonempty : members ≠ []) :
    (Assembly.awaitKey stack done).feed (membersTokens members ++ [.closeObject]) =
      .ok (Assembly.deliver (.object (done.insertAll (membersSorted members))) stack) := by
  match members with
  | [] => exact absurd rfl nonempty
  | (key, value) :: rest =>
      rw [membersDepth] at room
      have fed := feed_tokens value (.members done key :: stack)
        (by simp only [List.length_cons]; omega)
      have begun : ∀ more, (Assembly.awaitKey stack done).feed
          (.quoted (.ok key) (.ok ()) :: .colon :: more) =
        (Assembly.awaitValue (.members done key :: stack)).feed more := fun _ => rfl
      have delivered : Assembly.deliver value.sorted (.members done key :: stack) =
          .afterMember stack (Members.insert key value.sorted done) := rfl
      rw [delivered] at fed
      have later := feed_membersTokens rest stack (Members.insert key value.sorted done)
        (by omega)
      cases rest with
      | nil =>
          have ended : (Assembly.afterMember stack (Members.insert key value.sorted done)).feed
              [.closeObject] =
            .ok (Assembly.deliver (.object (Members.insert key value.sorted done)) stack) := rfl
          rw [membersTokens, List.cons_append, List.cons_append, begun, feed_append _ fed]
          exact ended
      | cons next others =>
          rw [membersTokens_cons key value (List.cons_ne_nil next others), List.cons_append,
            List.cons_append, begun, List.append_assoc, feed_append _ fed, List.cons_append,
            feed_of_step _ rfl]
          exact later (by simp)

end

/-- A text whose tokens are those of a value is read as that value, its members in the
order of their keys. -/
theorem read_of_scan {text : String} {value : Value} (scanned : Token.scan text = value.tokens)
    (shallow : value.depth ≤ Assembly.depthLimit) : Value.read text = .ok value.sorted := by
  have fed := feed_tokens value [] (by simpa using shallow)
  rw [Assembly.feed] at fed
  rw [Value.read, scanned, fed]
  rfl

theorem scan_text {value : Value} (narrow : value.Narrow) (exact : value.Exact) :
    Token.scan value.text = value.tokens := by
  have tokens := tokens_chars value narrow exact (show Delimited [] by simp [Delimited])
  simpa [Token.scan, Value.text, Scan.tokens, Scan.finish] using tokens

/-! ## Members in order -/

theorem itemsSorted_eq_map (items : List Value) : itemsSorted items = items.map Value.sorted := by
  induction items with
  | nil => rfl
  | cons item items ih => rw [itemsSorted, ih, List.map_cons]

theorem membersSorted_eq_map (members : Members) :
    membersSorted members = members.map fun member => (member.1, member.2.sorted) := by
  induction members with
  | nil => rfl
  | cons member members ih =>
      obtain ⟨key, value⟩ := member
      rw [membersSorted, ih, List.map_cons]

theorem membersSorted_of_forall {members : Members}
    (sorted : ∀ member ∈ members, member.2.sorted = member.2) :
    membersSorted members = members := by
  have same : ∀ member ∈ members, (member.1, member.2.sorted) = member := by
    intro member placed
    rw [sorted member placed]
  rw [membersSorted_eq_map, List.map_congr_left same, List.map_id']

theorem mem_insertAll {base pairs : Members} {member : String × Value}
    (placed : member ∈ base.insertAll pairs) : member ∈ base ∨ member ∈ pairs := by
  induction pairs generalizing base with
  | nil => exact .inl placed
  | cons pair pairs ih =>
      rcases ih placed with before | later
      · exact (mem_insert before).symm.imp_right fun first => List.mem_cons.mpr (.inl first)
      · exact .inr (List.mem_cons_of_mem _ later)

theorem mem_of_mem_ofList {pairs : Members} {member : String × Value}
    (placed : member ∈ Members.ofList pairs) : member ∈ pairs :=
  (mem_insertAll placed).resolve_left List.not_mem_nil

theorem insertAll_of_ordered {done members : Members}
    (ordered : Members.Ordered (done ++ members)) :
    done.insertAll members = done ++ members := by
  induction members generalizing done with
  | nil => simp [Members.insertAll]
  | cons member members ih =>
      obtain ⟨key, value⟩ := member
      have behind : ∀ member ∈ done, member.1 < key := by
        intro member earlier
        rw [Members.Ordered, List.map_append, List.pairwise_append] at ordered
        exact ordered.2.2 member.1 (List.mem_map_of_mem earlier) key (by simp)
      have step : done.insertAll ((key, value) :: members) =
        (Members.insert key value done).insertAll members := rfl
      rw [step, insert_of_forall_lt behind, ih (by simpa using ordered)]
      simp

/-- A canonical value is read as it is. -/
theorem sorted_of_canonical {value : Value} (canonical : value.Canonical) :
    value.sorted = value := by
  induction value using Value.byParts with
  | null | bool _ | number _ | string _ => rfl
  | array items ih =>
      have inner : ∀ item ∈ items, item.sorted = item := fun item placed =>
        ih item placed (canonical_array.mp canonical item placed)
      rw [Value.sorted, itemsSorted_eq_map, List.map_congr_left inner, List.map_id']
  | object members ih =>
      obtain ⟨ordered, parts⟩ := canonical_object.mp canonical
      have inner := membersSorted_of_forall fun member placed =>
        ih member placed (parts member placed)
      have whole : Members.insertAll [] members = members := insertAll_of_ordered ordered
      rw [Value.sorted, inner]
      exact congrArg Value.object whole

/-- The text of a value without floats is read as the same value. -/
theorem read_text {value : Value} (canonical : value.Canonical) (exact : value.Exact)
    (shallow : value.depth ≤ Assembly.depthLimit) : Value.read value.text = .ok value := by
  rw [read_of_scan (scan_text canonical.narrow exact) shallow, sorted_of_canonical canonical]

end PageSession.Json
