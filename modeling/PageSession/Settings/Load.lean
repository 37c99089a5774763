import PageSession.Json.Merge
import PageSession.Settings.Environment
import PageSession.Settings.Error

/-!
# Loading settings

The file is laid over the defaults, the environment over the file, and the
result has to be usable.  A file that is absent counts as empty.
-/

namespace PageSession

/-- Whether a text begins with another. -/
def startsWith (beginning text : String) : Bool :=
  beginning.toList.isPrefixOf text.toList

namespace Settings

/-- Settings that a client can run with. -/
def validate (settings : Settings) : Except SettingsError Unit :=
  let baseUrl := settings.connection.baseUrl
  if baseUrl = "" then .error (.invalid "transport.baseUrl is empty")
  else if !startsWith "ws://" baseUrl && !startsWith "wss://" baseUrl then
    .error (.invalid ("transport.baseUrl must use ws:// or wss://, got " ++ baseUrl))
  else if settings.connection.keepAliveInterval = 0 then
    .error (.invalid "transport.keepAliveIntervalMs must be positive")
  else .ok ()

/-- The settings that a file gives. -/
def ofText (text : String) : Except SettingsError Settings :=
  match Json.Value.read text with
  | .error defect => .error (.form defect)
  | .ok given =>
      match decode ((toJson {}).overlay given) with
      | .ok settings => .ok settings
      | .error mismatch => .error (.mismatch mismatch)

/-- The settings of a file over the defaults; a path that leads nowhere leaves
the defaults as they are, and a file that cannot be opened is an error. -/
def ofFile (file : FileNode) : Except SettingsError Settings :=
  match file with
  | .absent | .barred _ | .unreachable _ => .ok {}
  | .directory => .error (.file .isDirectory)
  | .sealed error => .error (.file error)
  | .file (.binary _) => .error (.file .invalidText)
  | .file (.text text) => ofText text

/-- The outcome of loading, with what was reported on the way. -/
structure Loaded where
  settings : Except SettingsError Settings
  incidents : List EnvironmentIncident := []

/-- Load the settings from a file and the environment. -/
def load (file : FileNode) (environment : Environment) : Loaded :=
  match ofFile file with
  | .error error => { settings := .error error }
  | .ok layered =>
      let (settings, incidents) := environment.override layered
      { settings := settings.validate.map fun _ => settings, incidents }

/-! ## Where things are -/

/-- A path within a directory; a directory without a name is no part of it. -/
def within (directory name : String) : String :=
  if directory = "" then name
  else if directory.toList.getLast? = some '/' then directory ++ name
  else directory ++ "/" ++ name

/-- The path of the settings file below a home directory. -/
def path (home : Option String) : String :=
  within (within (home.getD "/tmp") ".portal") "settings.json"

/-- A limit that zero turns off. -/
def limit (milliseconds : Nat) : Option Nat :=
  if milliseconds = 0 then none else some milliseconds

/-- The address of a session: the base address, without slashes at its end, and
the session as last part. -/
def endpoint (baseUrl session : String) : String :=
  let base := (baseUrl.toList.reverse.dropWhile (· == '/')).reverse
  String.ofList base ++ "/" ++ session

end Settings

end PageSession
