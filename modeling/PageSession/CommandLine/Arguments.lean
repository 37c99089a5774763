/-!
# Command-line arguments

Four options, each given once at most: three take a value, which stands behind
an equals sign or is the next argument, and one takes none.  Arguments are
looked at in order, and the first that is out of place, or a request for help,
decides.
-/

namespace PageSession

/-- What the arguments ask for. -/
structure Arguments where
  url : Option String := none
  settingsPath : Option String := none
  sessionPath : Option String := none
  jsonLogs : Bool := false
deriving DecidableEq, Repr

/-- An option that takes a value. -/
inductive ValueOption where
  | url
  | settings
  | sessionFile
deriving DecidableEq, Repr

/-- What is wrong with the arguments. -/
inductive UsageError where
  | unexpected (argument : String)
  | missingValue (option : ValueOption)
  | repeated (usage : String)
  | needless (usage value : String)
deriving DecidableEq, Repr

/-- What the program is to do. -/
inductive Invocation where
  | help
  | run (arguments : Arguments)
deriving DecidableEq, Repr

namespace ValueOption

def ofName? (name : String) : Option ValueOption :=
  if name = "url" then some .url
  else if name = "settings" then some .settings
  else if name = "session-file" then some .sessionFile
  else none

/-- The option with a name for its value. -/
def usage : ValueOption → String
  | .url => "--url <URL>"
  | .settings => "--settings <SETTINGS>"
  | .sessionFile => "--session-file <SESSION_FILE>"

/-- The value that the option was given. -/
def given : ValueOption → Arguments → Option String
  | .url, arguments => arguments.url
  | .settings, arguments => arguments.settingsPath
  | .sessionFile, arguments => arguments.sessionPath

def put : ValueOption → String → Arguments → Arguments
  | .url, value, arguments => { arguments with url := some value }
  | .settings, value, arguments => { arguments with settingsPath := some value }
  | .sessionFile, value, arguments => { arguments with sessionPath := some value }

/-- A path has to be given; an address may be empty. -/
def takesEmpty : ValueOption → Bool
  | .url => true
  | .settings | .sessionFile => false

/-- Give a value to the option. -/
def set (option : ValueOption) (value : String) (arguments : Arguments) :
    Except UsageError Arguments :=
  if (option.given arguments).isSome then .error (.repeated option.usage)
  else if value = "" && !option.takesEmpty then .error (.missingValue option)
  else .ok (option.put value arguments)

end ValueOption

namespace UsageError

def reason : UsageError → String
  | .unexpected argument => "unexpected argument '" ++ argument ++ "' found"
  | .missingValue option =>
      "a value is required for '" ++ option.usage ++ "' but none was supplied"
  | .repeated usage => "the argument '" ++ usage ++ "' cannot be used multiple times"
  | .needless usage value =>
      "unexpected value '" ++ value ++ "' for '" ++ usage ++ "' found; no more were expected"

/-- The lines that tell the user. -/
def lines (error : UsageError) : List String :=
  ["error: " ++ error.reason, "", "Usage: portal [OPTIONS]", "",
    "For more information, try '--help'."]

end UsageError

namespace Arguments

/-- An argument that begins with a dash and is more than one. -/
def isOption (argument : String) : Bool :=
  match argument.toList with
  | '-' :: _ :: _ => true
  | _ => false

/-- The name of a long option and the value behind its equals sign. -/
def splitLong? (argument : String) : Option (String × Option String) :=
  match argument.toList with
  | '-' :: '-' :: chars =>
      let (name, rest) := chars.span (· != '=')
      match rest with
      | [] => some (String.ofList name, none)
      | _ :: value => some (String.ofList name, some (String.ofList value))
  | _ => none

/-- Whether a group of short options begins with the one for help. -/
def asksForHelp (argument : String) : Bool :=
  match argument.toList with
  | '-' :: 'h' :: _ => true
  | _ => false

/-- The option that makes log lines JSON. -/
def setJsonLogs (value : Option String) (arguments : Arguments) : Except UsageError Arguments :=
  match value with
  | some value => .error (.needless "--json-logs" value)
  | none =>
      if arguments.jsonLogs then .error (.repeated "--json-logs")
      else .ok { arguments with jsonLogs := true }

/-- What an argument does by itself. -/
inductive Effect where
  | done (arguments : Arguments)
  /-- The next argument has to be a value. -/
  | awaits (option : ValueOption)
  | help
  /-- What follows are no options. -/
  | rest

/-- A long option. -/
def takeLong (argument name : String) (value : Option String) (given : Arguments) :
    Except UsageError Effect :=
  match ValueOption.ofName? name, value with
  | some option, some value => (option.set value given).map .done
  | some option, none => .ok (.awaits option)
  | none, value =>
      if name = "json-logs" then (setJsonLogs value given).map .done
      else if name = "help" then
        match value with
        | none => .ok .help
        | some value => .error (.needless "--help" value)
      else .error (.unexpected argument)

/-- One argument. -/
def take (argument : String) (given : Arguments) : Except UsageError Effect :=
  match splitLong? argument with
  | some ("", none) => .ok .rest
  | some (name, value) => takeLong argument name value given
  | none => if asksForHelp argument then .ok .help else .error (.unexpected argument)

/-- Arguments after those that were taken, the last of which may await a value. -/
def parseFrom (given : Arguments) (awaiting : Option ValueOption) :
    List String → Except UsageError Invocation
  | [] =>
      match awaiting with
      | none => .ok (.run given)
      | some option => .error (.missingValue option)
  | argument :: others =>
      match awaiting with
      | some option =>
          if isOption argument then .error (.missingValue option)
          else do
            let given ← option.set argument given
            parseFrom given none others
      | none => do
          let effect ← take argument given
          match effect with
          | .done given => parseFrom given none others
          | .awaits option => parseFrom given (some option) others
          | .help => .ok .help
          | .rest =>
              match others with
              | [] => .ok (.run given)
              | other :: _ => .error (.unexpected other)

/-- What arguments ask the program to do. -/
def parse (arguments : List String) : Except UsageError Invocation :=
  parseFrom {} none arguments

/-- The lines that are shown for help. -/
def helpLines : List String :=
  ["Headless portal page client",
    "",
    "Usage: portal [OPTIONS]",
    "",
    "Options:",
    "      --url <URL>                    Session endpoint prefix, e.g. "
      ++ "\x60ws://localhost:5001/portal/portal-session\x60",
    "      --settings <SETTINGS>          Settings file (defaults to "
      ++ "\x60~/.portal/settings.json\x60)",
    "      --session-file <SESSION_FILE>  File keeping the session identifier across runs",
    "      --json-logs                    Log JSON lines",
    "  -h, --help                         Print help"]

end Arguments

end PageSession
