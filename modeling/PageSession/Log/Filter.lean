import PageSession.Log.Line
import PageSession.Log.Pattern
import PageSession.Text.Alphanumeric
import PageSession.Text.Blank
import PageSession.Text.Split

/-!
# Filters of log lines

A filter is written as directives between commas.  A directive is a level, a
target, or both; a target stands for every target that begins with it.  Brackets
behind the target may name a span and, in braces, a field.  There are no spans
here, so that a directive with a span or with the value of a field lets nothing
through, and one with the name of a field fits the lines with such a field.

Of the directives that fit a line, the one with the longest target decides about
it, then one with a field before one without.  A line that no directive fits is
not written.
-/

namespace PageSession

/-- Why the text of a filter is refused. -/
inductive FilterError where
  /-- A directive begins with a character that begins no target. -/
  | form
  /-- A directive has no level where one should stand. -/
  | level
  /-- The value of a field is no number and no pattern. -/
  | pattern
deriving DecidableEq, Repr

namespace FilterError

/-- What is wrong with a pattern. -/
def patternReason : String := "error building NFA"

def message : FilterError → String
  | .form => "invalid filter directive"
  | .pattern => "invalid field filter: " ++ patternReason
  | .level =>
      "error parsing level filter: expected one of \"off\", \"error\", \"warn\", "
        ++ "\"info\", \"debug\", \"trace\", or a number 0-5"

end FilterError

/-- How much a directive lets through: lines up to a level, or none at all. -/
structure Threshold where
  greatest : Option Level
deriving DecidableEq, Repr

namespace Threshold

def off : Threshold := ⟨none⟩

def all : Threshold := ⟨some .trace⟩

/-- Whether a line of a level gets through. -/
def passes (threshold : Threshold) (level : Level) : Bool :=
  match threshold.greatest with
  | some greatest => level.rank ≤ greatest.rank
  | none => false

/-- The threshold that a text names. -/
def parse? (text : String) : Option Threshold :=
  if Text.unsigned? text = some 0 || text.toLower = "off" then some off
  else (Level.parse? text).map fun level => ⟨some level⟩

end Threshold

/-- The bytes of a text from one place to another. -/
def byteSlice (first last : Nat) : List Char → List Char
  | [] => []
  | char :: rest =>
      let width := char.utf8Size
      if last = 0 then []
      else if first = 0 then char :: byteSlice 0 (last - width) rest
      else byteSlice (first - width) (last - width) rest

/-! ## Directives as they are written -/

/-- A directive as it is written. -/
structure WrittenDirective where
  target : Option String := none
  span : Option String := none
  /-- The name of the field, and whether a value is given too. -/
  field : Option (String × Bool) := none
  threshold : Threshold := .all
deriving DecidableEq, Repr

namespace WrittenDirective

/-- What a directive is read up to, with the place where the current part began. -/
inductive Stage where
  | start
  /-- A level or a target. -/
  | word
  | span (begun : Nat)
  | field (begun : Nat)
  /-- Behind the braces. -/
  | fieldEnd
  /-- Behind the brackets. -/
  | spanEnd
  | level (begun : Nat)
deriving DecidableEq, Repr

/-- The characters that may begin a directive: letters, digits and three marks. -/
def begins (char : Char) : Bool :=
  char = '-' || char = ':' || char = '_' || Text.isAlphanumeric char

/-- The field that a text writes.  What stands behind a second equals sign does not
count. -/
def readField (text : List Char) : Except FilterError (String × Bool) :=
  let name := text.takeWhile (· != '=')
  let value := (text.drop (name.length + 1)).takeWhile (· != '=')
  if text.isEmpty then .error .form
  else if !isFieldValue value then .error .pattern
  else .ok (String.ofList name, text.contains '=')

/-- The directive for a target. -/
def aim (directive : WrittenDirective) (target : List Char) : WrittenDirective :=
  { directive with target := some (String.ofList target) }

/-- The directive for a span, if that has a name. -/
def enter (directive : WrittenDirective) (span : List Char) : WrittenDirective :=
  { directive with span := if span.isEmpty then none else some (String.ofList span) }

/-- The directive so far, and the stage it is at. -/
abbrev Draft := WrittenDirective × Stage

/-- The next character, which stands at a place.  Texts are cut out of the whole
part, whose blanks at the beginning are not counted in the places. -/
def next (part : List Char) (draft : Draft) (place : Nat) (char : Char) :
    Except FilterError Draft :=
  let (directive, stage) := draft
  let cut := fun begun => byteSlice begun place part
  match stage with
  | .start =>
      if char = '[' then .ok (directive, .span (place + 1))
      else if begins char then .ok (directive, .word)
      else .error .form
  | .word =>
      if char = '=' then .ok (directive.aim (cut 0), .level (place + 1))
      else if char = '[' then .ok (directive.aim (cut 0), .span (place + 1))
      else .ok (directive, .word)
  | .span begun =>
      if char = ']' then
        .ok ({ directive with span := some (String.ofList (cut begun)) }, .spanEnd)
      else if char = '\x7b' then .ok (directive.enter (cut begun), .field (place + 1))
      else .ok (directive, .span begun)
  | .field begun =>
      if char = '\x7d' then do
        let field ← readField (cut begun)
        .ok ({ directive with field := some field }, .fieldEnd)
      else .ok (directive, .field begun)
  | .fieldEnd => if char = ']' then .ok (directive, .spanEnd) else .error .form
  | .spanEnd => if char = '=' then .ok (directive, .level (place + 1)) else .error .form
  | .level begun => .ok (directive, .level begun)

/-- Take characters in from a place on. -/
def nextAll (part : List Char) (draft : Draft) (place : Nat) :
    List Char → Except FilterError Draft
  | [] => .ok draft
  | char :: rest => do
      let draft ← next part draft place char
      nextAll part draft (place + char.utf8Size) rest

/-- A directive without an equals sign: a level, or a target of which everything
gets through. -/
def ofWord (word : String) : WrittenDirective :=
  match Threshold.parse? word with
  | some threshold => { threshold }
  | none => { target := some word }

/-- The part has ended.  Without a level everything gets through. -/
def finish (part : List Char) (draft : Draft) : Except FilterError WrittenDirective :=
  let (directive, stage) := draft
  match stage with
  | .word => .ok (ofWord (String.ofList part))
  | .level begun =>
      let level := String.ofList (byteSlice begun (String.ofList part).utf8ByteSize part)
      if level = "" then .ok directive
      else
        match Threshold.parse? level with
        | some threshold => .ok { directive with threshold }
        | none => .error .level
  | .spanEnd => .ok directive
  | _ => .error .form

/-- The directive that a part of the text writes. -/
def read (part : List Char) : Except FilterError WrittenDirective := do
  let draft ← nextAll part ({}, .start) 0 (Text.trim part)
  finish part draft

end WrittenDirective

/-! ## Directives as they decide -/

/-- One directive of a filter. -/
structure Directive where
  target : Option String
  /-- The field that a line has to have. -/
  field : Option String := none
  threshold : Threshold
deriving DecidableEq, Repr

namespace Directive

/-- The directive that a written one is for lines outside of spans, if it is one. -/
def ofWritten (written : WrittenDirective) : Option Directive :=
  match written.span, written.field with
  | none, none => some { target := written.target, threshold := written.threshold }
  | none, some (name, false) =>
      some { target := written.target, field := some name, threshold := written.threshold }
  | _, _ => none

/-- Whether the directive fits a line. -/
def fits (directive : Directive) (line : LogLine) : Bool :=
  let targeted :=
    match directive.target with
    | none => true
    | some beginning => beginning.toList.isPrefixOf line.target.toList
  let named :=
    match directive.field with
    | none => true
    | some name => line.fieldNames.contains name
  targeted && named

/-- How much of a target the directive names; nothing, if it has none. -/
def extent (directive : Directive) : Nat :=
  match directive.target with
  | none => 0
  | some beginning => beginning.length + 1

/-- Whether one directive describes a line that both fit less closely than the
other: it names less of the target, or as much and a field that comes first in
the order of names, no field coming before all. -/
def isWider (directive other : Directive) : Bool :=
  directive.extent < other.extent
    || (directive.extent = other.extent && directive.field.getD "" < other.field.getD "")

end Directive

/-- A filter: directives that differ in their targets or fields. -/
structure Filter where
  directives : List Directive := []
deriving DecidableEq, Repr

namespace Filter

/-- Add a directive, in the place of the one with its target and field. -/
def add (filter : Filter) (directive : Directive) : Filter :=
  { directives :=
      filter.directives.filter
        (fun other => (other.target, other.field) ≠ (directive.target, directive.field))
      ++ [directive] }

/-- The filter that a text writes; empty parts are passed over. -/
def parse (text : String) : Except FilterError Filter := do
  let written ← ((Text.split ',' text.toList).filter (!·.isEmpty)).mapM WrittenDirective.read
  .ok ((written.filterMap Directive.ofWritten).foldl add {})

/-- The closer of two directives, if there are two. -/
def closer (best : Option Directive) (directive : Directive) : Option Directive :=
  match best with
  | none => some directive
  | some other => if other.isWider directive then some directive else some other

/-- The directive that decides about a line. -/
def decisive? (filter : Filter) (line : LogLine) : Option Directive :=
  (filter.directives.filter (·.fits line)).foldl closer none

/-- Whether a line is written. -/
def passes (filter : Filter) (line : LogLine) : Bool :=
  match filter.decisive? line with
  | some directive => directive.threshold.passes line.level
  | none => false

end Filter

end PageSession
