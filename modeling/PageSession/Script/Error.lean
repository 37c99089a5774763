import PageSession.Text.Duration

/-!
# What goes wrong with a script
-/

namespace PageSession

/-- Why a script is not accepted or did not run. -/
inductive ScriptError where
  | ambiguousSource (uri : String)
  | missingSource
  | load (uri : String) (reason : String)
  /-- The load took longer than allowed, in nanoseconds. -/
  | timeout (uri : String) (after : Nat)
  | execute (reason : String)
deriving DecidableEq, Repr

namespace ScriptError

def message : ScriptError → String
  | .ambiguousSource uri =>
      "script descriptor has both a uri (" ++ uri ++ ") and inline source"
  | .missingSource => "script descriptor has neither a uri nor inline source"
  | .load uri reason => "loading " ++ uri ++ " failed: " ++ reason
  | .timeout uri after => "loading " ++ uri ++ " timed out after " ++ Text.duration after
  | .execute reason => "inline script failed: " ++ reason

/-- The kind of an error in one word. -/
def kind : ScriptError → String
  | .ambiguousSource _ | .missingSource => "invalid_descriptor"
  | .load .. => "load"
  | .timeout .. => "timeout"
  | .execute _ => "execute"

end ScriptError

end PageSession
