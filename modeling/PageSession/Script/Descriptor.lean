import PageSession.Script.Error
import PageSession.Script.Names
import PageSession.Script.Resource

/-!
# Checked script descriptors

An announced script is accepted when it has exactly one source.
-/

namespace PageSession

/-- Where the code of a script is. -/
inductive ScriptSource where
  | uri (uri : String)
  | inline (source : String)
deriving DecidableEq, Repr

/-- A script with one source and the sets of names it provides and requires. -/
structure ScriptDescriptor where
  source : ScriptSource
  provides : Names := []
  requires : Names := []
deriving DecidableEq, Repr

namespace ScriptDescriptor

/-- Add names to what a script provides. -/
def providing (descriptor : ScriptDescriptor) (names : List String) : ScriptDescriptor :=
  { descriptor with provides := Names.union descriptor.provides names }

/-- Add names to what a script requires. -/
def requiring (descriptor : ScriptDescriptor) (names : List String) : ScriptDescriptor :=
  { descriptor with requires := Names.union descriptor.requires names }

/-- How many characters of an inline source a message shows. -/
def shownLength : Nat := 32

/-- The name of a script in messages. -/
def display (descriptor : ScriptDescriptor) : String :=
  match descriptor.source with
  | .uri uri => uri
  | .inline source =>
      "inline script `" ++ String.ofList (source.toList.take shownLength) ++ "`"

/-- Accept an announced script. -/
def ofResource (resource : ScriptResource) : Except ScriptError ScriptDescriptor :=
  let accept (source : ScriptSource) : ScriptDescriptor :=
    { source, provides := Names.ofList resource.provides,
      requires := Names.ofList resource.requires }
  match resource.uri, resource.source with
  | some uri, none => .ok (accept (.uri uri))
  | none, some source => .ok (accept (.inline source))
  | some uri, some _ => .error (.ambiguousSource uri)
  | none, none => .error .missingSource

end ScriptDescriptor

end PageSession
