import PageSession.Json.Value
import PageSession.Log.Level

/-!
# Log lines

A line has a level, the part of the program that it comes from, a message and
fields.  A field is a number or a text; line formats quote some texts and show
others bare.
-/

namespace PageSession

/-- The value of a field of a log line. -/
inductive FieldValue where
  /-- A text that line formats put in quotes. -/
  | quoted (text : String)
  /-- A text that is shown as it is. -/
  | bare (text : String)
  | number (value : Nat)
deriving DecidableEq, Repr

/-- A line of the log. -/
structure LogLine where
  level : Level
  target : String
  message : String
  fields : List (String × FieldValue) := []
deriving DecidableEq, Repr

namespace LogLine

def error (target message : String) (fields : List (String × FieldValue)) : LogLine :=
  { level := .error, target, message, fields }

def warn (target message : String) (fields : List (String × FieldValue)) : LogLine :=
  { level := .warn, target, message, fields }

def info (target message : String) (fields : List (String × FieldValue)) : LogLine :=
  { level := .info, target, message, fields }

def debug (target message : String) (fields : List (String × FieldValue)) : LogLine :=
  { level := .debug, target, message, fields }

/-- The names of what a line says, the message being one of them. -/
def fieldNames (line : LogLine) : List String :=
  "message" :: line.fields.map (·.1)

end LogLine

/-- A field's value in JSON. -/
def FieldValue.toJson : FieldValue → Json.Value
  | .quoted text | .bare text => .string text
  | .number value => .nat value

end PageSession
