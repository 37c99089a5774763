import PageSession.Json.Writer
import PageSession.Log.Config
import PageSession.Log.Filter
import PageSession.Text.Quoted
import PageSession.Text.Split

/-!
# The log as it is written

The log is set up once.  Its filter comes from the environment, if that holds a
valid one, and else from the configuration; it can be replaced later.  Lines are
written as texts or as JSON objects.
-/

namespace PageSession

namespace FieldValue

/-- A field's value in a line of text. -/
def text : FieldValue → String
  | .quoted value => Text.shown value
  | .bare value => value
  | .number value => Text.decimal value

end FieldValue

namespace LogLine

/-- The line as text, without the time. -/
def text (line : LogLine) : String :=
  line.level.label ++ " " ++ line.target ++ ": "
    ++ " ".intercalate (line.message ::
      line.fields.map fun (name, value) => name ++ "=" ++ value.text)

/-- The lines of the text, of which there are several if there are line ends in it. -/
def textLines (line : LogLine) : List String :=
  (Text.split '\n' line.text.toList).map String.ofList

/-- The line as a JSON object, without the time. -/
def toJson (line : LogLine) : Json.Value :=
  .ofMembers
    [("level", .string line.level.label),
      ("fields", .ofMembers (("message", .string line.message) ::
        line.fields.map fun (name, value) => (name, value.toJson))),
      ("target", .string line.target)]

end LogLine

/-- A log that was set up. -/
structure Log where
  filter : Filter
  json : Bool
deriving DecidableEq, Repr

/-- Why a log is not set up. -/
inductive LogError where
  | filter (error : FilterError)
  /-- There is one already. -/
  | alreadySet
deriving DecidableEq, Repr

namespace LogError

def message : LogError → String
  | .filter error => "invalid filter directive: " ++ error.message
  | .alreadySet =>
      "subscriber already installed: a global default trace dispatcher has already been set"

end LogError

namespace Log

/-- The filter of a log: the one of the environment, if it is valid, or the
configured one. -/
def chooseFilter (stated : Option String) (config : LogConfig) : Except FilterError Filter :=
  match stated.map Filter.parse with
  | some (.ok filter) => .ok filter
  | _ => Filter.parse config.directives

/-- Set up the log, if there is none.  The filter is looked at first. -/
def setUp (current : Option Log) (stated : Option String) (config : LogConfig) :
    Except LogError Log :=
  match chooseFilter stated config with
  | .error error => .error (.filter error)
  | .ok filter =>
      match current with
      | some _ => .error .alreadySet
      | none => .ok { filter, json := config.json }

/-- Replace the filter. -/
def setFilter (log : Log) (directives : String) : Except LogError Log :=
  match Filter.parse directives with
  | .ok filter => .ok { log with filter }
  | .error error => .error (.filter error)

/-- The lines that the filter lets through. -/
def select (log : Log) (lines : List LogLine) : List LogLine :=
  lines.filter log.filter.passes

end Log

end PageSession
