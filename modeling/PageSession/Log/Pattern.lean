import PageSession.Text.Alphanumeric
import PageSession.Text.Hexadecimal

/-!
# Patterns of field values

A directive of a filter may give the value of a field: a number or a pattern.  No
line is ever compared with it, but a text that is neither is refused.

A pattern is made of parts that may be repeated, that stand in groups and beside
alternatives, and of classes of characters in brackets.  It is gone through once:
what a character begins is told from those behind it.  Counted repetition and
classes by property do not occur, nor do letters without regard to their case.
-/

namespace PageSession

namespace Pattern

/-- What a place in a pattern is inside of, and what stands before it. -/
structure Scan where
  /-- Something that can be repeated stands before the place. -/
  repeatable : Bool := false
  /-- How many groups are open. -/
  groups : Nat := 0
  /-- How many classes are open, each inside the one before. -/
  classes : Nat := 0
  /-- The names that groups have. -/
  names : List (List Char) := []
deriving DecidableEq, Repr

/-- What is known behind a token, and how many more characters belong to it. -/
abbrev Step := Scan × Nat

/-! ## Escapes -/

/-- The characters that letters stand for behind a backslash. -/
def controls : List (Char × Char) :=
  [('a', '\x07'), ('f', '\x0c'), ('n', '\n'), ('r', '\r'), ('t', '\t'), ('v', '\x0b')]

/-- Whether a character stands for itself behind a backslash. -/
def isMark (char : Char) : Bool :=
  char.toNat < 0x80 && !char.isAlphanum && char != '<' && char != '>'

/-- A character given by so many hexadecimal digits. -/
def coded? (width : Nat) (chars : List Char) : Option (Option Char × Nat) := do
  let digits ← (chars.take width).mapM Text.hexadecimalValue?
  let value := digits.foldl (fun value digit => 16 * value + digit) 0
  if digits.length = width && (value < 0xD800 || (0xDFFF < value && value < 0x110000)) then
    some (some (Char.ofNat value), width + 1)
  else none

/-- What stands behind a backslash: a character, or a place at an end of the text,
with the number of characters that write it. -/
def escaped? : List Char → Option (Option Char × Nat)
  | [] => none
  | char :: rest =>
      if char = 'x' then coded? 2 rest
      else if char = 'u' then coded? 4 rest
      else if char = 'U' then coded? 8 rest
      else if char = 'A' || char = 'z' then some (none, 1)
      else if isMark char then some (some char, 1)
      else (controls.find? (·.1 == char)).map fun (_, control) => (some control, 1)

/-! ## Groups -/

/-- The letters of the switches that can be set for a group. -/
def switches : List Char := ['m', 's', 'U', 'u', 'R', 'x', 'i', '-']

/-- Whether switches are set in order: each once, behind a dash for off.  The one
for letter case can only be off. -/
def areSwitches (chars : List Char) : Bool :=
  chars.all switches.contains && decide chars.Nodup && chars.getLast? != some '-'
    && !(chars.takeWhile (· != '-')).contains 'i'

/-- Whether a group can have a name. -/
def isName (chars : List Char) : Bool :=
  match chars with
  | [] => false
  | first :: others =>
      (first = '_' || (Text.isAlphanumeric first && !first.isDigit))
        && others.all fun char =>
          Text.isAlphanumeric char || ['_', '.', '[', ']'].contains char

/-- A group with a name, given behind the angle bracket. -/
def Scan.openNamed (scan : Scan) (width : Nat) (chars : List Char) : Option Step :=
  let name := chars.takeWhile (· != '>')
  if name.length < chars.length && isName name && !scan.names.contains name then
    some ({ scan with
      repeatable := false
      groups := scan.groups + 1
      names := name :: scan.names }, width + name.length + 1)
  else none

/-- What stands behind a parenthesis with a question mark: the name of a group,
or switches for a group or for what follows. -/
def Scan.openMarked (scan : Scan) (chars : List Char) : Option Step :=
  match chars with
  | '<' :: rest => scan.openNamed 2 rest
  | 'P' :: '<' :: rest => scan.openNamed 3 rest
  | _ =>
      let set := chars.takeWhile fun char => !(char = ':' || char = ')')
      let scan := { scan with repeatable := false }
      if !areSwitches set then none
      else
        match chars.drop set.length with
        | ':' :: _ => some ({ scan with groups := scan.groups + 1 }, set.length + 2)
        | ')' :: _ => if set.isEmpty then none else some (scan, set.length + 2)
        | _ => none

/-! ## Classes -/

/-- How many characters behind the bracket that opens a class belong to it: a
caret, and dashes or a closing bracket that stand for themselves. -/
def classHead (chars : List Char) : Nat :=
  let caret := if chars.head? = some '^' then 1 else 0
  let behind := chars.drop caret
  let dashes := (behind.takeWhile (· == '-')).length
  let closing := if dashes = 0 && behind.head? = some ']' then 1 else 0
  caret + dashes + closing

/-- The classes that are known by name. -/
def classNames : List String :=
  ["alnum", "alpha", "ascii", "blank", "cntrl", "digit", "graph", "lower", "print", "punct",
    "space", "upper", "word", "xdigit"]

/-- The length of the name of a class between colons, given behind its bracket. -/
def namedClass? (chars : List Char) : Option Nat :=
  match chars with
  | ':' :: rest =>
      let caret := if rest.head? = some '^' then 1 else 0
      let name := (rest.drop caret).takeWhile (· != ':')
      if classNames.contains (String.ofList name)
          && [':', ']'].isPrefixOf (rest.drop (caret + name.length)) then
        some (caret + name.length + 3)
      else none
  | _ => none

/-- A character of a class, and how many more characters write it. -/
def classChar? (char : Char) (rest : List Char) : Option (Char × Nat) :=
  if char = '\\' then
    match escaped? rest with
    | some (some meant, width) => some (meant, width)
    | _ => none
  else some (char, 0)

/-- A character of a class or a range of them, in order: how many more characters
write it. -/
def classItem? (char : Char) (rest : List Char) : Option Nat := do
  let (first, width) ← classChar? char rest
  match rest.drop width with
  | '-' :: next :: behind =>
      if next = ']' || next = '-' then some width
      else
        let (last, more) ← classChar? next behind
        if first ≤ last then some (width + 2 + more) else none
  | _ => some width

/-! ## Patterns -/

/-- The next character outside of classes. -/
def Scan.outside (scan : Scan) (char : Char) (rest : List Char) : Option Step :=
  match char with
  | '(' =>
      match rest with
      | '?' :: behind => scan.openMarked behind
      | _ => some ({ scan with repeatable := false, groups := scan.groups + 1 }, 0)
  | ')' =>
      if scan.groups = 0 then none
      else some ({ scan with repeatable := true, groups := scan.groups - 1 }, 0)
  | '|' => some ({ scan with repeatable := false }, 0)
  | '*' | '+' | '?' =>
      if scan.repeatable then some (scan, if rest.head? = some '?' then 1 else 0) else none
  | '\x7b' => none
  | '[' => some ({ scan with classes := 1 }, classHead rest)
  | '\\' => (escaped? rest).map fun (_, width) => ({ scan with repeatable := true }, width)
  | _ => some ({ scan with repeatable := true }, 0)

/-- The next character inside of a class. -/
def Scan.inside (scan : Scan) (char : Char) (rest : List Char) : Option Step :=
  if char = '[' then
    match namedClass? rest with
    | some width => some (scan, width)
    | none => some ({ scan with classes := scan.classes + 1 }, classHead rest)
  else if char = ']' then some ({ scan with repeatable := true, classes := scan.classes - 1 }, 0)
  else if ['&', '-', '~'].contains char && rest.head? = some char then some (scan, 1)
  else (classItem? char rest).map fun width => (scan, width)

/-- The next character that begins a token. -/
def Scan.step (scan : Scan) (char : Char) (rest : List Char) : Option Step :=
  if scan.classes = 0 then scan.outside char rest else scan.inside char rest

/-- Whether characters complete a pattern, the first so many being part of a
token. -/
def Scan.completes (scan : Scan) (within : Nat) : List Char → Bool
  | [] => scan.groups = 0 && scan.classes = 0
  | char :: rest =>
      match within with
      | left + 1 => scan.completes left rest
      | 0 =>
          match scan.step char rest with
          | some (scan, within) => scan.completes within rest
          | none => false

end Pattern

/-- Whether a text is a pattern. -/
def isPattern (chars : List Char) : Bool :=
  ({} : Pattern.Scan).completes 0 chars

/-- Whether a text is the exponent of a number, or nothing. -/
def isExponent (chars : List Char) : Bool :=
  match chars with
  | [] => true
  | mark :: rest =>
      let digits := rest.drop (if rest.head? = some '+' || rest.head? = some '-' then 1 else 0)
      (mark = 'e' || mark = 'E') && !digits.isEmpty && digits.all Char.isDigit

/-- Whether a text is a number behind a plus sign.  Without the sign a number is a
pattern too. -/
def isSignedNumber (chars : List Char) : Bool :=
  match chars with
  | '+' :: rest =>
      let whole := rest.takeWhile Char.isDigit
      let behind := rest.drop whole.length
      let fraction := if behind.head? = some '.' then (behind.drop 1).takeWhile Char.isDigit else []
      let point := if behind.head? = some '.' then 1 else 0
      let named := ["inf", "infinity", "nan"].contains (String.ofList rest).toLower
      named || (!(whole.isEmpty && fraction.isEmpty)
        && isExponent (behind.drop (point + fraction.length)))
  | _ => false

/-- Whether a text can be given for the value of a field. -/
def isFieldValue (chars : List Char) : Bool :=
  isPattern chars || isSignedNumber chars

end PageSession
