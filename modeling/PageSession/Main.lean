import PageSession.CommandLine.Run
import PageSession.Session.FileTree
import Std.Time.DateTime.Timestamp

/-!
# The program

Reads what the run needs from the machine, and writes what it has to show.  A
client that could be started goes on until the program is stopped from outside.
-/

namespace PageSession

namespace Run

/-- The words of this program's own parser. -/
local instance parserWords : Json.Complaints where
  form
    | .truncated => "the text ends too early"
    | .misplaced => "the text has something out of place"
  type := "a value has the wrong type"

/-- The variables that a run looks at. -/
def variableNames : List String :=
  "HOME" :: "RUST_LOG" :: Override.all.map (·.1)

/-- The variables that are set. -/
def readEnvironment : IO Environment := do
  let values ← variableNames.mapM fun name => do
    let value ← IO.getEnv name
    return (name, value)
  return fun name => ((values.find? (·.1 == name)).map (·.2)).getD none

/-- What the machine says of a file. -/
def fileError : IO.Error → FileError
  | .noFileOrDirectory .. => .missing
  | .inappropriateType _ 21 _ => .isDirectory
  | .inappropriateType _ 20 _ => .notDirectory
  | .permissionDenied .. => .denied
  | other => .other (toString other)

/-- Whether a path leads to something, be it possible to open it or not. -/
def leads (path : String) : IO Bool := do
  match ← (IO.FS.realPath path).toBaseIO with
  | .ok _ => return true
  | .error _ => return false

/-- What stands at a path. -/
def readNode (path : String) : IO FileNode := do
  try
    let bytes ← IO.FS.readBinFile path
    return .file (.ofBytes bytes.toList)
  catch problem =>
    match fileError problem with
    | .missing => return .absent
    | .isDirectory => return .directory
    | error => return if ← leads path then .sealed error else .unreachable error

/-- What stands at a path, behind the directories that the path goes through. -/
def readAlong (path : String) : IO (List (String × FileNode)) := do
  let directories ← (FilePath.leading path).filterM fun directory =>
    leads (directory ++ "/" ++ FilePath.here)
  let node ← readNode path
  return directories.map (·, .directory) ++ [(path, node)]

/-- The directory of a path, if it names one. -/
def parent? (path : String) : Option String :=
  match Url.splitLast '/' path.toList with
  | some (before, _) => some (String.ofList before)
  | none => none

/-- Write a storage file; what is wrong, if that fails. -/
def writeFile (path text : String) : IO (Option FileError) := do
  try
    if let some parent := parent? path then
      if parent ≠ "" then IO.FS.createDirAll parent
    IO.FS.writeFile path text
    return none
  catch problem => return some (fileError problem)

/-- The files that a run with arguments looks at. -/
def readFiles (arguments : Arguments) (environment : Environment) : IO FileTree := do
  let settingsFiles ← readAlong (settingsPath arguments environment)
  let early : Surroundings :=
    { environment, files := (FileTree.ofPaths settingsFiles).node, time := "", fresh := "" }
  match loadSettings arguments early with
  | .error _ => return .ofPaths settingsFiles
  | .ok settings =>
      match settings.session.storagePath with
      | none => return .ofPaths settingsFiles
      | some path => return .ofPaths (settingsFiles ++ (← readAlong path))

/-- Start, and write what the start has stored.  If that fails, the program starts
as if it had known. -/
def startStoring (arguments : Arguments) (surroundings : Surroundings) :
    IO (Except Failure Run) := do
  let started := start arguments surroundings
  let stored := (started.toOption).bind Run.stored?
  match stored with
  | none => return started
  | some (path, text) =>
      if surroundings.files path = .file (.text text) then return started
      else
        match ← writeFile path text with
        | none => return started
        | some error =>
            let files := fun other => if other = path then .barred error else surroundings.files other
            return start arguments { surroundings with files }

/-- Print the lines that were logged. -/
def print (run : Run) : IO Run := do
  for line in run.written do
    IO.println line
  (← IO.getStdout).flush
  return { run with lines := [] }

/-- Go on as the clock does. -/
partial def keepGoing (run : Run) : IO Unit := do
  let wait := (run.pause?).getD 1000
  IO.sleep wait.toUInt32
  let run ← (run.advance wait).print
  keepGoing run

/-- Run the program with arguments that are in order. -/
def execute (arguments : Arguments) : IO UInt32 := do
  let environment ← readEnvironment
  let files ← readFiles arguments environment
  let seconds := (← Std.Time.Timestamp.now).toSecondsSinceUnixEpoch.val.toNat
  let random ← IO.getRandomBytes 16
  let surroundings : Surroundings :=
    { environment
      files := files.node
      time := Timestamp.ofSeconds seconds
      fresh := SessionId.ofRandom random.toList }
  match ← startStoring arguments surroundings with
  | .error failure =>
      failure.lines.forM IO.eprintln
      return 1
  | .ok run =>
      let run ← run.print
      match run.client with
      | .error failure =>
          failure.lines.forM IO.eprintln
          return 1
      | .ok _ =>
          run.keepGoing
          return 0

end Run

end PageSession

/-- Run the program with the arguments of the command line. -/
def main (arguments : List String) : IO UInt32 := do
  match PageSession.Arguments.parse arguments with
  | .error error =>
      error.lines.forM IO.eprintln
      return 2
  | .ok .help =>
      PageSession.Arguments.helpLines.forM IO.println
      return 0
  | .ok (.run arguments) => PageSession.Run.execute arguments
