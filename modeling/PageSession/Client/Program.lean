import PageSession.Link.Basic
import PageSession.Notification.Incoming

/-!
# Programs of handlers

A handler is a program that looks at the client and gives it commands, one
after the other, and ends well, with a failure, or by breaking off.  It may
register further handlers.
-/

namespace PageSession

/-- A failure that a handler reports. -/
inductive HandlerFailure where
  /-- What it was given does not follow the wire format. -/
  | wire (error : WireError)
  | failed (reason : String)

namespace HandlerFailure

def message [Json.Complaints] : HandlerFailure → String
  | .wire error => error.message
  | .failed reason => "handler failed: " ++ reason

/-- The kind of a failure in one word. -/
def kind : HandlerFailure → String
  | .wire _ => "protocol"
  | .failed _ => "failed"

end HandlerFailure

/-- How a handler ends. -/
inductive Outcome where
  | success
  | failure (failure : HandlerFailure)
  /-- It broke off with a message. -/
  | panic (message : String)

/-- What a handler can see of the client. -/
structure Snapshot where
  locks : Nat
  pending : Nat
  queued : Nat
  condition : Condition
  requested : Bool
deriving DecidableEq, Repr

mutual

/-- What a handler does from some point on. -/
inductive Program where
  | done (outcome : Outcome)
  | look (next : Snapshot → Program)
  | perform (command : Command) (next : Program)

/-- What a handler may ask of the client. -/
inductive Command where
  /-- Make a record of something, for whoever reads them. -/
  | note (entry : Json.Value)
  | lock
  | unlock
  | send (notification : Notification)
  | connect
  | close
  /-- Register a handler for a method. -/
  | handle (method : String) (program : List Json.Value → Program)
  /-- Register a method of a class of portlets. -/
  | handlePortlet (portletClass method : String)
      (program : PortletId → List Json.Value → Program)

end

instance : Inhabited Program :=
  ⟨.done .success⟩

/-- Who handles the notifications of one method. -/
inductive Handler where
  /-- The client itself, by what the method means. -/
  | standard (method : String)
  | custom (program : List Json.Value → Program)

end PageSession
