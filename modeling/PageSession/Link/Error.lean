/-!
# What goes wrong with a connection
-/

namespace PageSession

/-- Why a connection could not be made, or was lost. -/
inductive LinkError where
  | connect (endpoint : String) (reason : String)
  | send (reason : String)
  | receive (reason : String)
  | connectionClosed
deriving DecidableEq, Repr

namespace LinkError

def message : LinkError → String
  | .connect endpoint reason => "connect to " ++ endpoint ++ " failed: " ++ reason
  | .send reason => "send failed: " ++ reason
  | .receive reason => "receive failed: " ++ reason
  | .connectionClosed => "connection closed"

/-- The kind of an error in one word. -/
def kind : LinkError → String
  | .connect .. => "connect"
  | .send _ => "send"
  | .receive _ => "receive"
  | .connectionClosed => "connection_closed"

end LinkError

end PageSession
