/-!
# What stands at the path of a file

A file holds text or bytes that are none.  Reading fails on a directory, below
a plain file, on bytes that are no text, and on a file that may not be opened.  Where
nothing stands, reading finds nothing, and writing makes a file unless the path does
not allow for one.
-/

namespace PageSession

/-- The content of a file. -/
inductive FileContent where
  | text (text : String)
  /-- Bytes that are no UTF-8 text. -/
  | binary (bytes : List UInt8)
deriving DecidableEq, Repr

/-- The content that bytes are. -/
def FileContent.ofBytes (bytes : List UInt8) : FileContent :=
  match String.fromUTF8? ⟨bytes.toArray⟩ with
  | some decoded => .text decoded
  | none => .binary bytes

/-- Why a path cannot be read as a text, or written. -/
inductive FileError where
  | missing
  | occupied
  | isDirectory
  | notDirectory
  | nameLength
  /-- What stands there may not be opened. -/
  | denied
  /-- The path has a character that no path has. -/
  | nul
  | invalidText
  /-- Something else, in the words of the machine. -/
  | other (text : String)
deriving DecidableEq, Repr

namespace FileError

def message : FileError → String
  | .missing => "No such file or directory (os error 2)"
  | .occupied => "File exists (os error 17)"
  | .isDirectory => "Is a directory (os error 21)"
  | .notDirectory => "Not a directory (os error 20)"
  | .nameLength => "File name too long (os error 36)"
  | .denied => "Permission denied (os error 13)"
  | .nul => "file name contained an unexpected NUL byte"
  | .invalidText => "stream did not contain valid UTF-8"
  | .other text => text

end FileError

/-- What stands at a path. -/
inductive FileNode where
  | absent
  | directory
  | file (content : FileContent)
  /-- A file that cannot be opened. -/
  | sealed (error : FileError)
  /-- The path leads nowhere, and no file can be made there. -/
  | barred (error : FileError)
  /-- The path cannot be followed, for instance through a plain file. -/
  | unreachable (error : FileError)
deriving DecidableEq, Repr

namespace FileNode

/-- The text of a file; nothing if there is none. -/
def read : FileNode → Except FileError (Option String)
  | .absent | .barred _ => .ok none
  | .directory => .error .isDirectory
  | .file (.text text) => .ok (some text)
  | .file (.binary _) => .error .invalidText
  | .sealed error | .unreachable error => .error error

/-- Put a text into a file, directories being made as needed. -/
def write (text : String) : FileNode → Except FileError FileNode
  | .absent | .file _ => .ok (.file (.text text))
  | .directory => .error .isDirectory
  | .sealed error | .barred error | .unreachable error => .error error

/-- A content put to a path from outside; what cannot be written stays. -/
def replace (content : FileContent) : FileNode → FileNode
  | .absent | .file _ => .file content
  | other => other

/-- What stands at a path, removed from outside. -/
def remove : FileNode → FileNode
  | .absent | .file _ | .sealed _ | .directory => .absent
  | other => other

/-- A directory put to a path from outside. -/
def makeDirectory : FileNode → FileNode
  | .absent | .file _ | .sealed _ | .directory => .directory
  | other => other

end FileNode

end PageSession
