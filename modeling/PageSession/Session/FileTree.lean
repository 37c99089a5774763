import PageSession.Session.File
import PageSession.Text.Split

/-!
# Files by path

Some files with their paths determine what stands at every path: the directories
are those that the files need, and those around the directory that paths start
from.  A path is followed name by name, and each name but the last has to lead to
a directory.
-/

namespace PageSession

namespace FilePath

/-- The name that stands for the directory itself. -/
def here : String := "."

/-- The name that stands for the directory around one. -/
def around : String := ".."

/-- The root of all files, as a place. -/
def root : List String := ["/"]

/-- The greatest number of bytes of a name. -/
def greatestName : Nat := 255

/-- The number of bytes that a path stays below. -/
def pathBound : Nat := 4096

/-- The names on a path, from the outside in. -/
def names (path : String) : List String :=
  ((Text.split '/' path.toList).map String.ofList).filter (· != "")

/-- The paths that lead through names behind a beginning, up to the last name. -/
def through (beginning : String) : List String → List String
  | [] | [_] => []
  | name :: rest => (beginning ++ name) :: through (beginning ++ name ++ "/") rest

/-- The paths of the directories that a path goes through, from the outside in. -/
def leading (path : String) : List String :=
  through (if path.toList.head? = some '/' then "/" else "") (names path)

/-- Where a path starts. -/
def start (path : String) : List String :=
  if path.toList.head? = some '/' then root else []

/-- Whether a path ends with a slash, so that it can only be a directory's. -/
def endsInSlash (path : String) : Bool :=
  path.toList.getLast? = some '/'

/-- The place that a name leads to from a directory.  Places around the start are
known by how far out they are. -/
def place (directory : List String) (name : String) : List String :=
  if name = here then directory
  else if name = around then
    if directory = root then root
    else if directory.all (· == around) then directory ++ [around]
    else directory.dropLast
  else directory ++ [name]

end FilePath

/-- Files with their places. -/
abbrev FileTree := List (List String × FileNode)

namespace FileTree

open FilePath

/-- Files with their paths. -/
def ofPaths (files : List (String × FileNode)) : FileTree :=
  files.map fun (path, node) => ((names path).foldl place (start path), node)

/-- Whether a place is a directory without being listed. -/
def isImplied (tree : FileTree) (wanted : List String) : Bool :=
  wanted == root || wanted.all (· == around)
    || tree.any fun (listed, _) => wanted.isPrefixOf listed

/-- What stands at a place. -/
def nodeAt (tree : FileTree) (wanted : List String) : FileNode :=
  match tree.find? (·.1 == wanted) with
  | some (_, found) => found
  | none => if tree.isImplied wanted then .directory else .absent

/-- A place can be gone through only if it is a directory. -/
def checkDirectory (tree : FileTree) (wanted : List String) : Except FileError Unit :=
  match tree.nodeAt wanted with
  | .directory => .ok ()
  | .absent => .error .missing
  | _ => .error .notDirectory

/-- A name is not too long. -/
def checkName (name : String) : Except FileError Unit :=
  if greatestName < name.utf8ByteSize then .error .nameLength else .ok ()

/-- The place that names lead to. -/
def follow (tree : FileTree) (directory : List String) : List String → Except FileError (List String)
  | [] => .ok directory
  | name :: rest => do
      tree.checkDirectory directory
      checkName name
      tree.follow (place directory name) rest

/-- What a path leads to, if anything stands there. -/
def find (tree : FileTree) (path : String) : Except FileError FileNode := do
  if path.toList.contains '\x00' then throw .nul
  if path = "" then throw .missing
  if pathBound ≤ path.utf8ByteSize then throw .nameLength
  let reached ← tree.follow (start path) (names path ++ if endsInSlash path then [here] else [])
  match tree.nodeAt reached with
  | .absent => .error .missing
  | node => .ok node

/-- Make a directory where there is nothing. -/
def makeDirectory (tree : FileTree) (wanted : List String) : Except FileError FileTree :=
  match tree.nodeAt wanted with
  | .directory => .ok tree
  | .absent => .ok (tree ++ [(wanted, .directory)])
  | _ => .error .occupied

/-- Make the directories that names lead through. -/
def makeDirectories (tree : FileTree) (directory : List String) :
    List String → Except FileError FileTree
  | [] => .ok tree
  | name :: rest => do
      checkName name
      let next := place directory name
      let tree ← tree.makeDirectory next
      tree.makeDirectories next rest

/-- Whether a file can be made at a path that leads nowhere.  First the
directories around it are made. -/
def checkCreate (tree : FileTree) (path : String) : Except FileError Unit := do
  let around := ((names path).filter (· != here)).dropLast
  let tree ← tree.makeDirectories (start path) around
  match (names path).getLast? with
  | none => .error .missing
  | some last =>
      let directory ← tree.follow (start path) (names path).dropLast
      tree.checkDirectory directory
      if endsInSlash path || last = here || last = FilePath.around then throw .isDirectory
      checkName last
      if tree.nodeAt (place directory last) = .directory then throw .isDirectory

/-- What stands at a path. -/
def node (tree : FileTree) (path : String) : FileNode :=
  match tree.find path with
  | .ok found => found
  | .error .missing =>
      match tree.checkCreate path with
      | .ok () => .absent
      | .error error => .barred error
  | .error error => .unreachable error

end FileTree

end PageSession
