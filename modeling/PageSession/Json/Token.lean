import PageSession.Json.Value
import PageSession.Json.Numeral
import PageSession.Text.Hexadecimal

/-!
# Tokens of a JSON text

A text is split by one pass over its characters.  A word, number or quoted
text is a token even when it is faulty; the token then says what is wrong, and
nothing after it is read.  Two readings of such a token exist: taking its
value, and skipping it, which asks less of numbers and of surrogates.
-/

namespace PageSession

namespace Json

/-- What is wrong with a text that is no JSON. -/
inductive Defect where
  /-- It ended too early. -/
  | truncated
  /-- Something in it is out of place. -/
  | misplaced
deriving DecidableEq, Repr

/-- The words in which the parser complains, without a position.  They are not this
program's: whoever runs it gives them. -/
class Complaints where
  form : Defect → String
  /-- About a value of a type that was not wanted. -/
  type : String

/-- Unless words are given, a mask stands for every complaint. -/
instance (priority := low) Complaints.masked : Complaints where
  form _ := "<json>"
  type := "<json>"

/-- A token of a JSON text. -/
inductive Token where
  | openArray
  | closeArray
  | openObject
  | closeObject
  | colon
  | comma
  /-- One of the words `null`, `true` and `false`. -/
  | word (taken : Except Defect Value)
  | number (taken : Except Defect Number) (skipped : Except Defect Unit)
  | quoted (taken : Except Defect String) (skipped : Except Defect Unit)
  /-- A character that begins no token. -/
  | stray

/-- Where a quoted text stands with its escapes. -/
inductive Escape where
  /-- Outside of any escape. -/
  | plain
  /-- After a backslash. -/
  | started
  /-- Inside the four bytes of a code unit, of which `bytes` were read. -/
  | unit (high : Option Nat) (bytes : Nat) (value : Option Nat)
  /-- After the first half of a surrogate pair. -/
  | paired (high : Nat)
  /-- After that half and a backslash. -/
  | pairedStarted (high : Nat)

/-- A quoted text being read, its characters in reverse. -/
structure Quoted where
  reversed : List Char := []
  /-- A surrogate without its other half was met. -/
  unpaired : Bool := false
  escape : Escape := .plain

/-- The state of the pass between two characters. -/
inductive Scan where
  | between
  | word (rest : List Char) (value : Value)
  | number (numeral : Numeral) (phase : NumeralPhase)
  | quoted (text : Quoted)
  | halted

namespace Quoted

/-- The token of a text whose quote was closed. -/
def close (text : Quoted) : Token :=
  if text.unpaired then .quoted (.error .misplaced) (.ok ())
  else .quoted (.ok (String.ofList text.reversed.reverse)) (.ok ())

/-- The token of a text that breaks off. -/
def broken (text : Quoted) (defect : Defect) : Token :=
  .quoted (.error (if text.unpaired then .misplaced else defect)) (.error defect)

def push (text : Quoted) (char : Char) : Quoted :=
  { text with reversed := char :: text.reversed, escape := .plain }

/-- A complete code unit, after the first half of a pair or alone. -/
def pushUnit (text : Quoted) (high : Option Nat) (value : Nat) : Quoted :=
  match high with
  | some first =>
      if 0xDC00 ≤ value && value ≤ 0xDFFF then
        text.push (Char.ofNat (0x10000 + (first - 0xD800) * 0x400 + (value - 0xDC00)))
      else
        { text with unpaired := true, escape := .plain }
  | none =>
      if 0xDC00 ≤ value && value ≤ 0xDFFF then
        { text with unpaired := true, escape := .plain }
      else if 0xD800 ≤ value && value ≤ 0xDBFF then
        { text with escape := if text.unpaired then .plain else .paired value }
      else text.push (Char.ofNat value)

/-- The character that a one-letter escape stands for. -/
def escaped? (char : Char) : Option Char :=
  if char = '"' || char = '\\' || char = '/' then some char
  else if char = 'b' then some '\x08'
  else if char = 'f' then some '\x0c'
  else if char = 'n' then some '\n'
  else if char = 'r' then some '\r'
  else if char = 't' then some '\t'
  else none

/-- The next character outside of an escape. -/
def plainStep (text : Quoted) (char : Char) : List Token × Scan :=
  if char = '"' then ([text.close], .between)
  else if char = '\\' then ([], .quoted { text with escape := .started })
  else if char.toNat < 0x20 then ([text.broken .misplaced], .halted)
  else ([], .quoted (text.push char))

/-- The next character after a backslash. -/
def startedStep (text : Quoted) (char : Char) : List Token × Scan :=
  if char = 'u' then ([], .quoted { text with escape := .unit none 0 (some 0) })
  else
    match escaped? char with
    | some meant => ([], .quoted (text.push meant))
    | none => ([text.broken .misplaced], .halted)

/-- The next character of a code unit.  A code unit takes four bytes whatever
they are, and only then is judged. -/
def unitStep (text : Quoted) (high : Option Nat) (bytes : Nat) (value : Option Nat)
    (char : Char) : List Token × Scan :=
  let value := do
    let digit ← Text.hexadecimalValue? char
    let sum ← value
    some (16 * sum + digit)
  let bytes := bytes + char.utf8Size
  if bytes < 4 then ([], .quoted { text with escape := .unit high bytes value })
  else
    match value with
    | some whole => ([], .quoted (text.pushUnit high whole))
    | none => ([text.broken .misplaced], .halted)

/-- The next character of a quoted text. -/
def step (text : Quoted) (char : Char) : List Token × Scan :=
  match text.escape with
  | .plain => text.plainStep char
  | .started => text.startedStep char
  | .unit high bytes value => text.unitStep high bytes value char
  | .paired high =>
      if char = '\\' then ([], .quoted { text with escape := .pairedStarted high })
      else { text with unpaired := true }.plainStep char
  | .pairedStarted high =>
      if char = 'u' then ([], .quoted { text with escape := .unit (some high) 0 (some 0) })
      else { text with unpaired := true }.startedStep char

end Quoted

namespace Numeral

/-- The token of a number that ends here. -/
def close (numeral : Numeral) (phase : NumeralPhase) : Token :=
  match numeral.number? phase with
  | some value => .number (.ok value) (.ok ())
  | none => .number (.error .misplaced) (.ok ())

end Numeral

namespace Scan

/-- The next character between two tokens. -/
def betweenStep (char : Char) : List Token × Scan :=
  if char = ' ' || char = '\t' || char = '\n' || char = '\r' then ([], .between)
  else if char = '[' then ([.openArray], .between)
  else if char = ']' then ([.closeArray], .between)
  else if char = '\x7b' then ([.openObject], .between)
  else if char = '\x7d' then ([.closeObject], .between)
  else if char = ':' then ([.colon], .between)
  else if char = ',' then ([.comma], .between)
  else if char = '"' then ([], .quoted {})
  else if char = 'n' then ([], .word ['u', 'l', 'l'] .null)
  else if char = 't' then ([], .word ['r', 'u', 'e'] (.bool true))
  else if char = 'f' then ([], .word ['a', 'l', 's', 'e'] (.bool false))
  else if char = '-' then ([], .number { negative := true } .afterSign)
  else if char = '0' then ([], .number { negative := false } .zero)
  else if char.isDigit then
    ([], .number ({ negative := false : Numeral }.pushWhole (Text.digitValue char)) .whole)
  else ([.stray], .halted)

/-- The next character of the text: the tokens that it completes, and the
state after it. -/
def step (scan : Scan) (char : Char) : List Token × Scan :=
  match scan with
  | .between => betweenStep char
  | .word [] value =>
      let (tokens, next) := betweenStep char
      (.word (.ok value) :: tokens, next)
  | .word (expected :: rest) value =>
      if char = expected then
        if rest.isEmpty then ([.word (.ok value)], .between) else ([], .word rest value)
      else ([.word (.error .misplaced)], .halted)
  | .number numeral phase =>
      match numeral.react phase char with
      | .grow numeral phase => ([], .number numeral phase)
      | .finished =>
          let (tokens, next) := betweenStep char
          (numeral.close phase :: tokens, next)
      | .misplaced => ([.number (.error .misplaced) (.error .misplaced)], .halted)
  | .quoted text => text.step char
  | .halted => ([], .halted)

/-- The tokens that the end of the text completes. -/
def finish : Scan → List Token
  | .between => []
  | .word [] value => [.word (.ok value)]
  | .word (_ :: _) _ => [.word (.error .truncated)]
  | .number numeral phase =>
      if Numeral.NumeralPhase.complete phase then [numeral.close phase]
      else [.number (.error .truncated) (.error .misplaced)]
  | .quoted text => [text.broken .truncated]
  | .halted => []

/-- The tokens of the characters that are left. -/
def tokens (scan : Scan) : List Char → List Token
  | [] => scan.finish
  | char :: rest =>
      let (completed, next) := scan.step char
      completed ++ tokens next rest

end Scan

/-- The tokens of a text. -/
def Token.scan (text : String) : List Token :=
  Scan.between.tokens text.toList

end Json

end PageSession
