import PageSession.Text.Hexadecimal
import PageSession.Text.Split

/-!
# Tables of code points

Data of the Unicode standard are rows for ranges of code points.  A table is
written as a text: its rows stand between blanks and line ends in ascending order,
each with its first and last code point in hexadecimal digits and a hyphen between them,
and behind a colon with what the row says.  Of a range of one code point the
number is written once.
-/

namespace PageSession

/-- What a table says about a range of code points. -/
structure CodeRow (α : Type) where
  first : Nat
  last : Nat
  value : α
deriving Repr

/-- Rows for ranges of code points, in ascending order. -/
structure CodeTable (α : Type) where
  rows : Array (CodeRow α) := #[]

namespace CodeTable

/-! ## Reading -/

/-- The number that hexadecimal digits write. -/
def codePoint (digits : List Char) : Nat :=
  digits.foldl (fun value digit => 16 * value + (Text.hexadecimalValue? digit).getD 0) 0

/-- The row that a part of the text writes. -/
def readRow {α : Type} (value : List Char → α) (part : List Char) : CodeRow α :=
  let (range, said) := part.span (· != ':')
  let (first, last) := range.span (· != '-')
  { first := codePoint first
    last := codePoint (if last.isEmpty then first else last.drop 1)
    value := value (said.drop 1) }

/-- The parts of a text between blanks and line ends. -/
def parts (text : String) : List (List Char) :=
  ((Text.split '\n' text.toList).flatMap (Text.split ' ')).filter (!·.isEmpty)

/-- The table that a text writes. -/
def read {α : Type} (value : List Char → α) (text : String) : CodeTable α :=
  { rows := ((parts text).map (readRow value)).toArray }

/-! ## Looking up -/

/-- Look for the row of a code point among those from one place to another.  Each
step halves them. -/
def search {α : Type} (rows : Array (CodeRow α)) (code : Nat) :
    Nat → Nat → Nat → Option (CodeRow α)
  | 0, _, _ => none
  | steps + 1, low, high =>
      let middle := (low + high) / 2
      match rows[middle]? with
      | none => none
      | some row =>
          if high ≤ low then none
          else if code < row.first then search rows code steps low middle
          else if row.last < code then search rows code steps (middle + 1) high
          else some row

/-- The row of a code point. -/
def row? {α : Type} (table : CodeTable α) (code : Nat) : Option (CodeRow α) :=
  search table.rows code (table.rows.size.log2 + 2) 0 table.rows.size

/-- What the table says about a character. -/
def get? {α : Type} (table : CodeTable α) (char : Char) : Option α :=
  (table.row? char.toNat).map (·.value)

end CodeTable

/-- A set of characters. -/
abbrev CodeSet := CodeTable Unit

namespace CodeSet

/-- The set that a text writes. -/
def read (text : String) : CodeSet :=
  CodeTable.read (fun _ => ()) text

def contains (set : CodeSet) (char : Char) : Bool :=
  (set.row? char.toNat).isSome

end CodeSet

end PageSession
