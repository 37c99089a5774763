import PageSession.Client.Program
import PageSession.Client.Registry
import PageSession.Link.Basic
import PageSession.Script.Loader

/-!
# The state of a page's client

The client joins the link to the portal, the queue of notifications that
arrived, the handlers for them, and the loader of page resources.  What happens
is appended to one journal, in order.
-/

namespace PageSession

/-- The notifications that arrived and were not handled yet. -/
structure Inbox where
  queue : List Notification := []
  /-- How many locks hold them back. -/
  locks : Nat := 0
  /-- Whether they are being handled. -/
  dispatching : Bool := false

namespace Client

/-- What a log line of the client is about. -/
inductive Incident where
  | unlockIgnored
  | undecodable (error : WireError)
  | unhandled (method : String)
  | handlerFailed (method : String) (failure : HandlerFailure)
  | handlerPanicked (method : String) (message : String)

/-- The log line of an incident. -/
def Incident.line [Json.Complaints] : Incident → LogLine
  | .unlockIgnored =>
      .warn "portal_transport::transport" "unlock without matching lock ignored" []
  | .undecodable error =>
      .warn "portal_transport::transport" "dropping undecodable frame"
        [("error", .bare error.message)]
  | .unhandled method =>
      .error "portal_transport::transport" "no handler for notification, dropped"
        [("method", .quoted method)]
  | .handlerFailed method failure =>
      .warn "portal_transport::transport" "notification handler failed"
        [("method", .quoted method), ("error", .bare failure.message),
          ("error_kind", .quoted failure.kind)]
  | .handlerPanicked method message =>
      .error "portal_transport::transport" "notification handler panicked"
        [("method", .quoted method), ("panic", .bare message)]

/-- One thing that happened. -/
inductive Report where
  | link (report : Link.Report)
  | loader (report : Loader.Report)
  | incident (incident : Incident)
  /-- A notification was taken from the queue to be handled. -/
  | taken (notification : Notification)
  /-- A method of a portlet was called. -/
  | called (call : PortletCall)
  /-- A handler made a record. -/
  | noted (entry : Json.Value)
  /-- The portal asked for the page to be loaded anew. -/
  | reload

end Client

/-- The client of one page. -/
structure Client where
  link : Link
  host : ScriptHost
  inbox : Inbox := {}
  handlers : Registry String Handler := {}
  portlets : Registry (String × String) (PortletId → List Json.Value → Program) := {}
  loader : Loader := {}
  layout : Option PageLayout := none
  journal : List Client.Report := []

namespace Client

/-- Append to the journal. -/
def report (client : Client) (entry : Report) : Client :=
  { client with journal := client.journal ++ [entry] }

/-- Let something happen to the link; what it reports joins the journal. -/
def onLink (client : Client) (change : Link → Link) : Client :=
  let link := change client.link
  { client with
    link := { link with journal := [] }
    journal := client.journal ++ link.journal.map .link }

/-- What a handler sees. -/
def snapshot (client : Client) : Snapshot :=
  { locks := client.inbox.locks
    pending := client.inbox.queue.length
    queued := client.link.outbound.length
    condition := client.link.condition
    requested := client.link.requested }

def connect (client : Client) : Client :=
  client.onLink Link.connect

def close (client : Client) : Client :=
  client.onLink Link.close

def send (client : Client) (notification : Notification) : Client :=
  client.onLink (·.send notification.frame)

/-- Hold back the notifications that arrive; locks add up. -/
def lock (client : Client) : Client :=
  { client with inbox := { client.inbox with locks := client.inbox.locks + 1 } }

/-- Register a handler for a method. -/
def handle (client : Client) (method : String) (handler : Handler) : Client :=
  { client with handlers := client.handlers.register method handler }

/-- Register a method of a class of portlets. -/
def handlePortlet (client : Client) (portletClass method : String)
    (program : PortletId → List Json.Value → Program) : Client :=
  { client with portlets := client.portlets.register (portletClass, method) program }

/-- A client that handles nothing. -/
def start (plan : LinkPlan) (host : ScriptHost) : Client :=
  { link := { plan }, host }

/-- The methods that the client handles itself. -/
def standardMethods : List String :=
  [Method.reload, Method.addPageResources, Method.lastPortalLayout, Method.invokePortletMethod]

/-- A client that handles the standard methods. -/
def startStandard (plan : LinkPlan) (host : ScriptHost) : Client :=
  standardMethods.foldl (fun client method => client.handle method (.standard method))
    (start plan host)

end Client

end PageSession
