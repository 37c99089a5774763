import PageSession.Log.Line
import PageSession.Settings.Basic

/-!
# Overrides from the environment

Eight variables override one setting each.  A variable that is not set, or not
readable as text, changes nothing; a number out of its range or an unknown truth
value changes nothing either and is reported.
-/

namespace PageSession

/-- The variables that are set, with their texts. -/
abbrev Environment := String → Option String

/-- A truth value written as a word or digit, in any case. -/
def parseBool? (text : String) : Option Bool :=
  let word := text.toLower
  if word = "true" || word = "1" || word = "yes" || word = "on" then some true
  else if word = "false" || word = "0" || word = "no" || word = "off" then some false
  else none

/-- The greatest number of 64 bits. -/
def greatestCount : Nat := 0xFFFFFFFFFFFFFFFF

/-- A number of 64 bits within bounds. -/
def parseCount? (least greatest : Nat) (text : String) : Option Nat :=
  match Text.unsigned? text with
  | some value =>
      if value ≤ greatestCount && least ≤ value && value ≤ greatest then some value else none
  | none => none

/-- A variable whose text is not acceptable. -/
inductive EnvironmentIncident where
  | invalidBool (name : String) (text : String)
  | invalidCount (name : String) (text : String)
deriving DecidableEq, Repr

/-- The log line of an incident. -/
def EnvironmentIncident.line : EnvironmentIncident → LogLine
  | .invalidBool name text =>
      .warn "portal_settings::loader" "invalid boolean env var, ignoring"
        [("key", .quoted name), ("value", .bare text)]
  | .invalidCount name text =>
      .warn "portal_settings::loader" "invalid u64 env var, ignoring"
        [("key", .quoted name), ("value", .bare text)]

/-- How the text of a variable is understood, and which setting it overrides. -/
inductive Override where
  /-- Any text but the empty one. -/
  | text (set : String → Settings → Settings)
  | count (least greatest : Nat) (set : Nat → Settings → Settings)
  | bool (set : Bool → Settings → Settings)

namespace Override

def setBaseUrl (baseUrl : String) (settings : Settings) : Settings :=
  { settings with connection := { settings.connection with baseUrl } }

def setReconnectDelay (reconnectDelay : Nat) (settings : Settings) : Settings :=
  { settings with connection := { settings.connection with reconnectDelay } }

def setKeepAliveInterval (keepAliveInterval : Nat) (settings : Settings) : Settings :=
  { settings with connection := { settings.connection with keepAliveInterval } }

def setMaxInactivity (maxInactivity : Nat) (settings : Settings) : Settings :=
  { settings with connection := { settings.connection with maxInactivity } }

def setLoadTimeout (loadTimeout : Nat) (settings : Settings) : Settings :=
  { settings with scripts := { loadTimeout } }

def setStoragePath (path : String) (settings : Settings) : Settings :=
  { settings with session := { storagePath := some path } }

def setLogLevel (level : String) (settings : Settings) : Settings :=
  { settings with log := { settings.log with level } }

def setLogJson (json : Bool) (settings : Settings) : Settings :=
  { settings with log := { settings.log with json } }

/-- The variables and what they override, in the order in which they are read. -/
def all : List (String × Override) :=
  [("PORTAL_URL", .text setBaseUrl),
    ("PORTAL_RECONNECT_DELAY_MS", .count 10 600000 setReconnectDelay),
    ("PORTAL_KEEP_ALIVE_MS", .count 100 3600000 setKeepAliveInterval),
    ("PORTAL_MAX_INACTIVITY_MS", .count 0 86400000 setMaxInactivity),
    ("PORTAL_SCRIPT_TIMEOUT_MS", .count 0 3600000 setLoadTimeout),
    ("PORTAL_SESSION_FILE", .text setStoragePath),
    ("PORTAL_LOG_LEVEL", .text setLogLevel),
    ("PORTAL_LOG_JSON", .bool setLogJson)]

/-- Apply the text of a variable, or say why not. -/
def apply (name text : String) (settings : Settings) :
    Override → Except EnvironmentIncident Settings
  | .text set => .ok (if text = "" then settings else set text settings)
  | .count least greatest set =>
      match parseCount? least greatest text with
      | some value => .ok (set value settings)
      | none => .error (.invalidCount name text)
  | .bool set =>
      match parseBool? text with
      | some value => .ok (set value settings)
      | none => .error (.invalidBool name text)

end Override

/-- Apply one variable, if it is set. -/
def Environment.applyOne (environment : Environment) (settings : Settings)
    (name : String) (override : Override) : Settings × List EnvironmentIncident :=
  match environment name with
  | none => (settings, [])
  | some text =>
      match override.apply name text settings with
      | .ok settings => (settings, [])
      | .error incident => (settings, [incident])

/-- Apply variables in order. -/
def Environment.applyAll (environment : Environment) (settings : Settings) :
    List (String × Override) → Settings × List EnvironmentIncident
  | [] => (settings, [])
  | (name, override) :: rest =>
      let (settings, incidents) := environment.applyOne settings name override
      let (settings, later) := environment.applyAll settings rest
      (settings, incidents ++ later)

/-- Apply every variable that overrides a setting. -/
def Environment.override (environment : Environment) (settings : Settings) :
    Settings × List EnvironmentIncident :=
  environment.applyAll settings Override.all

end PageSession
