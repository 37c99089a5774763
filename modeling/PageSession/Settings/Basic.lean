import PageSession.Json.Decode

/-!
# Settings

Everything that can be configured, in four sections.  Durations are in
milliseconds, and zero stands for no limit where a limit may be absent.  The
written form is a JSON object; a member that is missing keeps its default.
-/

namespace PageSession

/-- How the portal is reached. -/
structure ConnectionSettings where
  baseUrl : String := "ws://localhost:5001/portal/portal-session"
  reconnectDelay : Nat := 1000
  keepAliveInterval : Nat := 60000
  maxInactivity : Nat := 0
deriving DecidableEq, Repr

/-- How the scripts of a page are loaded. -/
structure ScriptSettings where
  loadTimeout : Nat := 30000
deriving DecidableEq, Repr

/-- Where the name of the session is kept; without a path, in memory. -/
structure SessionSettings where
  storagePath : Option String := none
deriving DecidableEq, Repr

/-- What is logged, and how. -/
structure LogSettings where
  level : String := "info"
  json : Bool := false
  /-- Levels of single parts of the program, in the order of their names. -/
  modules : List (String × String) := []
deriving DecidableEq, Repr

/-- All settings. -/
structure Settings where
  connection : ConnectionSettings := {}
  scripts : ScriptSettings := {}
  session : SessionSettings := {}
  log : LogSettings := {}
deriving DecidableEq, Repr

/-! ## The written form -/

namespace ConnectionSettings

def members (settings : ConnectionSettings) : List (String × Json.Value) :=
  [("baseUrl", .string settings.baseUrl),
    ("reconnectDelayMs", .nat settings.reconnectDelay),
    ("keepAliveIntervalMs", .nat settings.keepAliveInterval),
    ("maxInactivityMs", .nat settings.maxInactivity)]

def fields : List (Json.Decode.Field ConnectionSettings) :=
  [{ name := "baseUrl"
     set := fun value settings => do
      let baseUrl ← Json.Decode.string value
      .ok { settings with baseUrl } },
   { name := "reconnectDelayMs"
     set := fun value settings => do
      let reconnectDelay ← Json.Decode.count value
      .ok { settings with reconnectDelay } },
   { name := "keepAliveIntervalMs"
     set := fun value settings => do
      let keepAliveInterval ← Json.Decode.count value
      .ok { settings with keepAliveInterval } },
   { name := "maxInactivityMs"
     set := fun value settings => do
      let maxInactivity ← Json.Decode.count value
      .ok { settings with maxInactivity } }]

def decode (value : Json.Value) : Json.Decoded ConnectionSettings :=
  Json.Decode.record "struct TransportSettings" fields {} value

end ConnectionSettings

namespace ScriptSettings

def members (settings : ScriptSettings) : List (String × Json.Value) :=
  [("scriptLoadTimeoutMs", .nat settings.loadTimeout)]

def fields : List (Json.Decode.Field ScriptSettings) :=
  [{ name := "scriptLoadTimeoutMs"
     set := fun value _ => do
      let loadTimeout ← Json.Decode.count value
      .ok { loadTimeout } }]

def decode (value : Json.Value) : Json.Decoded ScriptSettings :=
  Json.Decode.record "struct ResourceSettings" fields {} value

end ScriptSettings

namespace SessionSettings

/-- Without a path the section is empty. -/
def members (settings : SessionSettings) : List (String × Json.Value) :=
  (settings.storagePath.map fun path => ("storagePath", Json.Value.string path)).toList

def fields : List (Json.Decode.Field SessionSettings) :=
  [{ name := "storagePath"
     set := fun value _ => do
      let storagePath ← Json.Decode.optional Json.Decode.path value
      .ok { storagePath } }]

def decode (value : Json.Value) : Json.Decoded SessionSettings :=
  Json.Decode.record "struct SessionSettings" fields {} value

end SessionSettings

namespace LogSettings

/-- Without levels of single parts their table is left out. -/
def members (settings : LogSettings) : List (String × Json.Value) :=
  let table := settings.modules.map fun (name, level) => (name, Json.Value.string level)
  [("level", .string settings.level), ("json", .bool settings.json)]
    ++ (if table.isEmpty then [] else [("modules", .object table)])

def fields : List (Json.Decode.Field LogSettings) :=
  [{ name := "level"
     set := fun value settings => do
      let level ← Json.Decode.string value
      .ok { settings with level } },
   { name := "json"
     set := fun value settings => do
      let json ← Json.Decode.boolean value
      .ok { settings with json } },
   { name := "modules"
     set := fun value settings => do
      let modules ← Json.Decode.table Json.Decode.string value
      .ok { settings with modules } }]

def decode (value : Json.Value) : Json.Decoded LogSettings :=
  Json.Decode.record "struct LoggingSettings" fields {} value

end LogSettings

namespace Settings

/-- The sections in their order. -/
def members (settings : Settings) : List (String × Json.Value) :=
  [("transport", .ofMembers settings.connection.members),
    ("resources", .ofMembers settings.scripts.members),
    ("session", .ofMembers settings.session.members),
    ("logging", .ofMembers settings.log.members)]

/-- The settings as a JSON value. -/
def toJson (settings : Settings) : Json.Value :=
  .ofMembers settings.members

def fields : List (Json.Decode.Field Settings) :=
  [{ name := "transport"
     set := fun value settings => do
      let connection ← ConnectionSettings.decode value
      .ok { settings with connection } },
   { name := "resources"
     set := fun value settings => do
      let scripts ← ScriptSettings.decode value
      .ok { settings with scripts } },
   { name := "session"
     set := fun value settings => do
      let session ← SessionSettings.decode value
      .ok { settings with session } },
   { name := "logging"
     set := fun value settings => do
      let log ← LogSettings.decode value
      .ok { settings with log } }]

def decode (value : Json.Value) : Json.Decoded Settings :=
  Json.Decode.record "struct PortalSettings" fields {} value

end Settings

end PageSession
