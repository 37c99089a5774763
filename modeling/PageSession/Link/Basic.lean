import PageSession.Link.Error
import PageSession.Log.Line
import PageSession.Notification.Outgoing

/-!
# The link to the portal

A link keeps one connection to the portal for as long as one is requested, and
a queue of frames that outlives its connections.  Each request starts a
supervisor, which makes the attempts, writes the queue and says goodbye.
Supervisors take turns: only the first of them acts, the others wait until it
has ended.

What happens is appended to a journal, in order.
-/

namespace PageSession

/-- What a link is told beforehand; durations are in milliseconds. -/
structure LinkPlan where
  endpoint : String
  session : SessionId
  reconnectDelay : Nat
  keepAliveInterval : Nat
  /-- Suspend the session after this long without a message of the page. -/
  maxInactivity : Option Nat
deriving DecidableEq, Repr

/-- Where the link stands. -/
inductive Condition where
  | disconnected
  | connecting
  | connected
deriving DecidableEq, Repr

/-- What the page is told of the link. -/
inductive LinkEvent where
  | connected
  | connectionLost
  | connectionRestored
  | sessionSuspended
  | closed
deriving DecidableEq, Repr

/-- The name of an event. -/
def LinkEvent.name : LinkEvent → String
  | .connected => "Connected"
  | .connectionLost => "ConnectionLost"
  | .connectionRestored => "ConnectionRestored"
  | .sessionSuspended => "SessionSuspended"
  | .closed => "Closed"

/-- What a supervisor does on its open connection. -/
inductive Stage where
  /-- The queue was written; it waits for something to happen. -/
  | idle
  /-- It writes a frame of the queue. -/
  | writing (frame : String)
  /-- It writes the frames handed over when the link was closed. -/
  | parting (frame : String) (rest : List String)
  /-- It writes the frame that announces the end. -/
  | leaving
  /-- It closes the connection. -/
  | closing
  /-- It closes the connection of a suspended session. -/
  | suspending
deriving DecidableEq, Repr

/-- How far a supervisor has come. -/
inductive Phase where
  /-- Its predecessor has not ended. -/
  | waiting
  /-- It tries to connect. -/
  | attempting
  /-- It waits until it may try again. -/
  | delaying (due : Nat)
  /-- Its connection is open; the next keep-alive tick is due. -/
  | online (connection : Nat) (tickDue : Nat) (stage : Stage)
  /-- Its connection was opened without an interval for ticks.  It let go of the
  connection and does nothing any more, but still speaks for the link. -/
  | stranded
deriving DecidableEq, Repr

/-- One who serves a request for a connection. -/
structure Supervisor where
  serial : Nat
  /-- It no longer speaks for the link, which was closed or suspended. -/
  dismissed : Bool := false
  /-- It has had an open connection. -/
  wasOpen : Bool := false
  /-- Frames handed over when the link was closed. -/
  parting : List String := []
  phase : Phase := .waiting
deriving DecidableEq, Repr

namespace Link

/-- What a log line of the link is about. -/
inductive Incident where
  | connecting (endpoint : String)
  | opened (endpoint : String)
  | closing (session : SessionId)
  | suspended (session : SessionId)
  | connectFailed (endpoint : String) (error : LinkError)
  | connectionLost (endpoint : String) (error : LinkError)
  /-- The connection failed with frames left that were handed over. -/
  | closingFailed (error : LinkError) (unsent : Nat)
  /-- The end could not be announced. -/
  | unannounced (error : LinkError)
deriving DecidableEq, Repr

/-- One thing that happened. -/
inductive Report where
  /-- A supervisor was started. -/
  | started (serial : Nat)
  /-- The supervisor that spoke for the link was dismissed. -/
  | dismissed (serial : Nat)
  | ended (serial : Nat)
  /-- A frame joined the queue. -/
  | enqueued (frame : String)
  /-- The page sent a frame, which wakes the writer. -/
  | woken
  /-- A supervisor began an attempt to connect, at a time. -/
  | attempting (time : Nat)
  /-- The attempt was refused, at a time. -/
  | refused (time : Nat)
  | opened (connection : Nat)
  | lost (connection : Nat) (time : Nat)
  /-- A frame of the queue was written. -/
  | wrote (connection : Nat) (frame : String)
  /-- The frame that announces the end was written. -/
  | announced (connection : Nat) (frame : String)
  /-- The connection is closed from this side or given up. -/
  | released (connection : Nat)
  | event (event : LinkEvent)
  | incident (incident : Incident)
deriving DecidableEq, Repr

/-- The log line of an incident. -/
def Incident.line : Incident → LogLine
  | .connecting endpoint =>
      .info "portal_transport::transport" "connecting" [("endpoint", .bare endpoint)]
  | .opened endpoint =>
      .info "portal_transport::supervisor" "connection open" [("endpoint", .bare endpoint)]
  | .closing session =>
      .info "portal_transport::transport" "closing" [("session_id", .bare session.text)]
  | .suspended session =>
      .info "portal_transport::supervisor" "inactivity limit reached, session suspended"
        [("session_id", .bare session.text)]
  | .connectFailed endpoint error =>
      .warn "portal_transport::supervisor" "connect failed"
        [("endpoint", .bare endpoint), ("error", .bare error.message),
          ("error_kind", .quoted error.kind)]
  | .connectionLost endpoint error =>
      .warn "portal_transport::supervisor" "connection lost"
        [("endpoint", .bare endpoint), ("error", .bare error.message),
          ("error_kind", .quoted error.kind)]
  | .closingFailed error unsent =>
      .warn "portal_transport::supervisor" "connection failed while closing"
        [("error", .bare error.message), ("unsent", .number unsent)]
  | .unannounced error =>
      .warn "portal_transport::supervisor" "could not announce disconnect"
        [("error", .bare error.message)]

end Link

/-- The state of a link. -/
structure Link where
  plan : LinkPlan
  /-- The time on the link's clock. -/
  now : Nat := 0
  /-- Whether the page wants a connection. -/
  requested : Bool := false
  condition : Condition := .disconnected
  /-- Frames queued and not yet written. -/
  outbound : List String := []
  /-- How long the page has sent nothing, as counted by keep-alive ticks. -/
  idle : Nat := 0
  /-- Whether the page sent something since the last tick. -/
  sentSinceTick : Bool := false
  /-- A wake-up for the writer is waiting to be taken. -/
  wakeUp : Bool := false
  /-- The supervisors that have not ended, in the order of their start. -/
  supervisors : List Supervisor := []
  /-- How many supervisors were started. -/
  started : Nat := 0
  /-- How many connections were opened. -/
  opened : Nat := 0
  journal : List Link.Report := []
deriving DecidableEq, Repr

namespace Link

/-- Append to the journal. -/
def report (link : Link) (entry : Report) : Link :=
  { link with journal := link.journal ++ [entry] }

/-- Some supervisor speaks for the link. -/
def served (link : Link) : Bool :=
  link.supervisors.any (!·.dismissed)

/-- Put frames at the end of the queue. -/
def enqueue (link : Link) (frame : String) : Link :=
  { link with outbound := link.outbound ++ [frame] }.report (.enqueued frame)

/-! ## What the page asks for -/

/-- Ask for a connection.  While a supervisor speaks for the link it serves this
request too; else one is started. -/
def connect (link : Link) : Link :=
  if link.served then { link with requested := true }
  else
    let link := { link with
      requested := true
      condition := .connecting
      idle := 0
      sentSinceTick := false }
    let link := link.report (.incident (.connecting link.plan.endpoint))
    { link with
      supervisors := link.supervisors ++ [({ serial := link.started } : Supervisor)]
      started := link.started + 1 }.report (.started link.started)

/-- Dismiss the supervisor that speaks for the link and hand frames over to it. -/
def dismiss (frames : List String) (supervisor : Supervisor) : Supervisor :=
  if supervisor.dismissed then supervisor
  else { supervisor with dismissed := true, parting := supervisor.parting ++ frames }

/-- Whether a supervisor does nothing any more, though it has not ended. -/
def isStranded (supervisor : Supervisor) : Bool :=
  supervisor.phase == .stranded

/-- Close the link.  Frames queued on an open connection are still written on
it; else they stay queued.  A stranded supervisor is removed, and the frames
handed over to it are lost. -/
def close (link : Link) : Link :=
  match link.supervisors.find? (!·.dismissed) with
  | none => { link with requested := false, condition := .disconnected }
  | some supervisor =>
      let isOpen := link.condition == .connected
      let frames := if isOpen then link.outbound else []
      let link := { link with
        requested := false
        condition := .disconnected
        outbound := if isOpen then [] else link.outbound
        supervisors := (link.supervisors.filter (!isStranded ·)).map (dismiss frames) }
      (link.report (.incident (.closing link.plan.session))).report
        (.dismissed supervisor.serial)

/-- Queue a frame of the page. -/
def send (link : Link) (frame : String) : Link :=
  ({ link with idle := 0, sentSinceTick := true, wakeUp := true }.enqueue frame).report .woken

/-- Let time pass. -/
def elapse (link : Link) (milliseconds : Nat) : Link :=
  { link with now := link.now + milliseconds }

end Link

end PageSession
