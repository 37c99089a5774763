import PageSession.Log.Line
import PageSession.Notification.Basic
import PageSession.Session.Entries
import PageSession.Session.File

/-!
# Where the session's name is kept

A storage keeps texts by key.  One kind lives in memory, the other in a file
that outlives the program.  A storage file that cannot be understood is replaced
when something is stored, and left alone when it is read.
-/

namespace PageSession

/-- Why a storage does not answer. -/
inductive StorageError where
  | unavailable (reason : String)
  | file (error : FileError)
  | corrupt (corruption : Corruption)
deriving DecidableEq, Repr

/-- What is wrong with a storage file, in the words of the parser. -/
def Corruption.message [Json.Complaints] : Corruption → String
  | .form defect => Json.Complaints.form defect
  | .type => Json.Complaints.type

def StorageError.message [Json.Complaints] : StorageError → String
  | .unavailable reason => "storage unavailable: " ++ reason
  | .file error => "storage I/O failed: " ++ error.message
  | .corrupt corruption => "storage content is corrupt: " ++ corruption.message

/-- What a log line of the storage is about. -/
inductive StorageIncident where
  /-- The stored name of the session is used. -/
  | reusing (session : String)
  /-- Storing replaces a file that could not be understood. -/
  | replacing (corruption : Corruption)
  /-- The name of the session cannot be looked up and will not last. -/
  | ephemeral (error : StorageError)
  /-- The name of the session could not be stored. -/
  | unstored (session : String) (error : StorageError)
deriving DecidableEq, Repr

/-- The log line of an incident. -/
def StorageIncident.line [Json.Complaints] : StorageIncident → LogLine
  | .reusing session =>
      .debug "portal_core::session" "reusing stored session id" [("session_id", .bare session)]
  | .replacing corruption =>
      .warn "portal_core::session" "replacing corrupt storage file"
        [("error", .bare corruption.message)]
  | .ephemeral error =>
      .warn "portal_core::session" "session storage unavailable, using ephemeral session id"
        [("error", .bare error.message)]
  | .unstored session error =>
      .warn "portal_core::session" "failed to persist session id"
        [("error", .bare error.message), ("session_id", .bare session)]

/-- A storage in memory.  Reading and writing can be made to fail. -/
structure MemoryStorage where
  entries : List (String × String) := []
  readFault : Option String := none
  writeFault : Option String := none
deriving DecidableEq, Repr

namespace MemoryStorage

def get (storage : MemoryStorage) (key : String) : Except StorageError (Option String) :=
  match storage.readFault with
  | some reason => .error (.unavailable reason)
  | none => .ok ((storage.entries.find? (·.1 == key)).map (·.2))

def set (storage : MemoryStorage) (key value : String) : Except StorageError MemoryStorage :=
  match storage.writeFault with
  | some reason => .error (.unavailable reason)
  | none => .ok { storage with entries := (key, value) :: storage.entries.filter (·.1 != key) }

end MemoryStorage

namespace FileNode

/-- The entries of the storage file at a path; a file that is absent has none. -/
def entries (node : FileNode) : Except StorageError StoredEntries :=
  match node.read with
  | .error error => .error (.file error)
  | .ok none => .ok []
  | .ok (some text) => (StoredEntries.read text).mapError .corrupt

/-- The value stored under a key. -/
def getStored (node : FileNode) (key : String) : Except StorageError (Option String) := do
  let entries ← node.entries
  .ok ((entries.get? key).map (·.value))

/-- The entries that storing adds to: none, if the file cannot be understood. -/
def entriesToExtend (node : FileNode) :
    Except StorageError (StoredEntries × List StorageIncident) :=
  match node.entries with
  | .ok entries => .ok (entries, [])
  | .error (.corrupt corruption) => .ok ([], [.replacing corruption])
  | .error other => .error other

/-- Store a value under a key at a time. -/
def setStored (node : FileNode) (time key value : String) :
    Except StorageError (FileNode × List StorageIncident) := do
  let (entries, incidents) ← node.entriesToExtend
  match node.write (entries.set key { value, storedAt := time }).text with
  | .ok written => .ok (written, incidents)
  | .error error => .error (.file error)

end FileNode

/-- A storage of either kind. -/
inductive Storage where
  | memory (storage : MemoryStorage)
  | file (node : FileNode)
deriving DecidableEq, Repr

namespace Storage

def get (storage : Storage) (key : String) : Except StorageError (Option String) :=
  match storage with
  | .memory held => held.get key
  | .file node => node.getStored key

/-- Store a value under a key; a storage that cannot do so stays as it is. -/
def set (storage : Storage) (time key value : String) :
    Except StorageError (Storage × List StorageIncident) :=
  match storage with
  | .memory held => do
      let held ← held.set key value
      .ok (.memory held, [])
  | .file node => do
      let (node, incidents) ← node.setStored time key value
      .ok (.file node, incidents)

end Storage

end PageSession
