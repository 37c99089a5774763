import PageSession.Bench.Network
import PageSession.CommandLine.Arguments
import PageSession.CommandLine.Failure
import PageSession.Session.Identity

/-!
# A run of the program

The program loads its settings, sets up the log, finds out the name of its
session and starts a client.  It runs until it is interrupted, unless one of
these steps fails.
-/

namespace PageSession

/-- What the program finds when it is started. -/
structure Surroundings where
  environment : Environment
  /-- What stands at each path. -/
  files : String → FileNode
  /-- The time of the start. -/
  time : String
  /-- A name for a session that has none. -/
  fresh : String

/-- The state of a run. -/
structure Run where
  settings : Settings
  log : Log
  /-- The lines that were logged, including those that are not written. -/
  lines : List LogLine
  storage : Storage
  /-- The client and what is around it, or why there is none. -/
  client : Except Failure Bench

namespace Run

/-- The path of the settings file. -/
def settingsPath (arguments : Arguments) (environment : Environment) : String :=
  arguments.settingsPath.getD (Settings.path (environment "HOME"))

/-- Apply what the arguments override. -/
def override (arguments : Arguments) (settings : Settings) : Settings :=
  let settings :=
    match arguments.url with
    | some url => Override.setBaseUrl url settings
    | none => settings
  let settings :=
    match arguments.sessionPath with
    | some path => Override.setStoragePath path settings
    | none => settings
  if arguments.jsonLogs then Override.setLogJson true settings else settings

/-- The settings of a run. -/
def loadSettings [Json.Complaints] (arguments : Arguments) (surroundings : Surroundings) : Except Failure Settings := do
  let path := settingsPath arguments surroundings.environment
  let loaded := Settings.load (surroundings.files path) surroundings.environment
  let settings ← loaded.settings.mapError .loading
  let settings := override arguments settings
  settings.validate.mapError .invalid
  .ok settings

/-- The storage that the settings name, as it is found. -/
def findStorage (settings : Settings) (files : String → FileNode) : Storage :=
  match settings.session.storagePath with
  | some path => .file (files path)
  | none => .memory {}

/-- The line with which a client starts. -/
def greeting (session : SessionId) (settings : Settings) : LogLine :=
  .info "portal" "starting portal client"
    [("session_id", .bare session.text), ("url", .bare settings.connection.baseUrl)]

/-- The client of a session, which has a page if its address has an origin. -/
def makeClient (settings : Settings) (session : SessionId) : Except Failure Bench := do
  let _ ← (PageHost.ofAddress settings.connection.baseUrl).mapError Failure.origin
  .ok { Bench.isolated (settings.plan session) PageHost.scripts with
    loadTimeout := Settings.limit settings.scripts.loadTimeout }

/-- Let something happen to the client, and take over what it has logged. -/
def onClient (run : Run) (change : Bench → Bench) : Run :=
  match run.client with
  | .error _ => run
  | .ok bench =>
      let bench := change bench
      { run with lines := run.lines ++ bench.log, client := .ok { bench with log := [] } }

/-- Ask for a connection, and have the portal told that the page is ready. -/
def connect [Json.Complaints] (run : Run) : Run :=
  run.onClient fun bench => (bench.connectPage.onClient (·.send .portalReady)).settle

/-- Start with settings and a log. -/
def startWith [Json.Complaints] (settings : Settings) (log : Log) (surroundings : Surroundings) : Run :=
  let obtained := SessionId.obtain (findStorage settings surroundings.files) surroundings.time
    surroundings.fresh
  let run : Run :=
    { settings
      log
      lines := obtained.incidents.map StorageIncident.line ++ [greeting obtained.session settings]
      storage := obtained.storage
      client := makeClient settings obtained.session }
  run.connect

/-- Start the program; without settings or a log nothing is logged. -/
def start [Json.Complaints] (arguments : Arguments) (surroundings : Surroundings) : Except Failure Run := do
  let settings ← loadSettings arguments surroundings
  let config := LogConfig.ofSettings settings.log
  let log ← (Log.setUp none (surroundings.environment "RUST_LOG") config).mapError .logging
  .ok (startWith settings log surroundings)

/-- Let time pass. -/
def advance [Json.Complaints] (run : Run) (milliseconds : Nat) : Run :=
  run.onClient fun bench => bench.advance milliseconds

/-- Log a line of the program itself. -/
def note (run : Run) (line : LogLine) : Run :=
  { run with lines := run.lines ++ [line] }

/-- End the program: the client is closed. -/
def interrupt [Json.Complaints] (run : Run) : Run :=
  (run.note (.info "portal" "shutting down" [])).onClient fun bench =>
    (bench.onClient Client.close).settle

/-- How long nothing happens by itself, if something does after that. -/
def pause? (run : Run) : Option Nat :=
  match run.client with
  | .ok bench => bench.earliest?.map (· - bench.client.link.now)
  | .error _ => none

/-- The texts of the lines that are written. -/
def written (run : Run) : List String :=
  (run.log.select run.lines).flatMap fun line =>
    if run.log.json then [line.toJson.text] else line.textLines

/-- The path of the storage file and the text that has to stand there. -/
def stored? (run : Run) : Option (String × String) :=
  match run.settings.session.storagePath, run.storage with
  | some path, .file (.file (.text text)) => some (path, text)
  | _, _ => none

end Run

end PageSession
