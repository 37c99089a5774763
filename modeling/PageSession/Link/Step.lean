import PageSession.Link.Basic

/-!
# How a supervisor acts

The supervisor whose turn it is reacts to what happens to it, one stimulus at a
time.  A stimulus that does not fit its phase changes nothing.  Wherever it
waits, it first looks whether it was dismissed.
-/

namespace PageSession

/-- What may happen to the supervisor whose turn it is. -/
inductive Stimulus where
  /-- Nobody is before it any more. -/
  | turn
  /-- It looks up while nothing else has happened. -/
  | glance
  | accepted
  | refused (error : LinkError)
  /-- The delay before the next attempt is over. -/
  | delayOver
  | wrote
  | writeFailed (error : LinkError)
  /-- A frame of the portal was handled. -/
  | handled
  | readFailed (error : LinkError)
  /-- A wake-up of the page is taken. -/
  | wake
  /-- A keep-alive tick is due. -/
  | tick
  /-- Closing the connection has succeeded or failed. -/
  | closed
deriving DecidableEq, Repr

namespace Link

/-- A tick handled later than this moves the following ones. -/
def tickTolerance : Nat := 5

/-- When the tick after one is due: on the grid, or one interval after a tick
that came late. -/
def nextTick (link : Link) (due : Nat) : Nat :=
  if due + tickTolerance < link.now then link.now + link.plan.keepAliveInterval
  else due + link.plan.keepAliveInterval

/-- The supervisor has ended: what it could not write goes back to the head of
the queue. -/
def conclude (link : Link) (supervisor : Supervisor) (others : List Supervisor) : Link :=
  ({ link with
    outbound := supervisor.parting ++ link.outbound
    supervisors := others }.report (.event .closed)).report (.ended supervisor.serial)

/-- The supervisor goes on in another phase. -/
def proceed (link : Link) (supervisor : Supervisor) (others : List Supervisor) (phase : Phase) :
    Link :=
  { link with supervisors := { supervisor with phase } :: others }

/-- Try to connect. -/
def attempt (link : Link) (supervisor : Supervisor) (others : List Supervisor) : Link :=
  (link.proceed supervisor others .attempting).report (.attempting link.now)

/-- Write the queue while the supervisor speaks for the link. -/
def flush (link : Link) (supervisor : Supervisor) (others : List Supervisor)
    (connection tickDue : Nat) : Link :=
  if supervisor.dismissed then link.proceed supervisor others (.online connection tickDue .idle)
  else
    match link.outbound with
    | [] => link.proceed supervisor others (.online connection tickDue .idle)
    | frame :: rest =>
        { link with outbound := rest }.proceed supervisor others
          (.online connection tickDue (.writing frame))

/-- An attempt has failed or a connection was lost: try again after the delay,
unless the supervisor was dismissed. -/
def retreat (link : Link) (supervisor : Supervisor) (others : List Supervisor) : Link :=
  if supervisor.dismissed then link.conclude supervisor others
  else
    { link with condition := .disconnected }.proceed supervisor others
      (.delaying (link.now + link.plan.reconnectDelay))

/-- The connection was lost. -/
def lose (link : Link) (supervisor : Supervisor) (others : List Supervisor) (connection : Nat)
    (error : LinkError) : Link :=
  let link := (link.report (.released connection)).report (.lost connection link.now)
  let link := link.report (.incident (.connectionLost link.plan.endpoint error))
  (link.report (.event .connectionLost)).retreat supervisor others

/-- The attempt was accepted.  Without an interval for the ticks the supervisor
cannot go on. -/
def openConnection (link : Link) (supervisor : Supervisor) (others : List Supervisor) : Link :=
  let connection := link.opened
  let event := if supervisor.wasOpen then LinkEvent.connectionRestored else .connected
  let link := { link with
    condition := .connected
    idle := 0
    sentSinceTick := false
    opened := connection + 1 }
  let link := link.report (.opened connection)
  let link := link.report (.incident (.opened link.plan.endpoint))
  let link := link.report (.event event)
  let supervisor := { supervisor with wasOpen := true }
  if link.plan.keepAliveInterval = 0 then
    (link.report (.released connection)).proceed supervisor others .stranded
  else
    link.flush supervisor others connection (link.now + link.plan.keepAliveInterval)

/-- The attempt was refused. -/
def refuse (link : Link) (supervisor : Supervisor) (others : List Supervisor)
    (error : LinkError) : Link :=
  let link := link.report (.refused link.now)
  (link.report (.incident (.connectFailed link.plan.endpoint error))).retreat supervisor others

/-- Say goodbye: first the frames handed over, then the announcement. -/
def depart (link : Link) (supervisor : Supervisor) (others : List Supervisor)
    (connection tickDue : Nat) : List String → Link
  | [] => link.proceed { supervisor with parting := [] } others (.online connection tickDue .leaving)
  | frame :: rest =>
      link.proceed { supervisor with parting := [] } others
        (.online connection tickDue (.parting frame rest))

/-- Whether the page has been idle for too long. -/
def exceeded (link : Link) : Bool :=
  match link.plan.maxInactivity with
  | none => false
  | some limit => limit ≤ link.idle

/-- The page has been idle for too long: the session is suspended. -/
def suspend (link : Link) (supervisor : Supervisor) (others : List Supervisor)
    (connection tickDue : Nat) : Link :=
  let link := { link with requested := false, condition := .disconnected }
  let link := link.report (.incident (.suspended link.plan.session))
  (link.report (.event .sessionSuspended)).proceed { supervisor with dismissed := true } others
    (.online connection tickDue .suspending)

/-- A keep-alive tick.  If the page sent nothing since the last one, the portal
is told that the page is still there, or the session is suspended. -/
def tick (link : Link) (supervisor : Supervisor) (others : List Supervisor)
    (connection tickDue : Nat) : Link :=
  let next := link.nextTick tickDue
  if link.sentSinceTick then
    { link with sentSinceTick := false }.flush supervisor others connection next
  else
    let link := { link with idle := link.idle + link.plan.keepAliveInterval }
    if link.exceeded then link.suspend supervisor others connection next
    else (link.enqueue Notification.keepAlive.frame).flush supervisor others connection next

/-- What happens to a supervisor that waits on its open connection. -/
def idleStep (link : Link) (supervisor : Supervisor) (others : List Supervisor)
    (connection tickDue : Nat) (stimulus : Stimulus) : Link :=
  if supervisor.dismissed then
    link.depart supervisor others connection tickDue supervisor.parting
  else
    match stimulus with
    | .handled => link.flush supervisor others connection tickDue
    | .readFailed error => link.lose supervisor others connection error
    | .wake =>
        if link.wakeUp then
          { link with wakeUp := false }.flush supervisor others connection tickDue
        else link
    | .tick => if tickDue ≤ link.now then link.tick supervisor others connection tickDue else link
    | _ => link

/-- What happens to a supervisor that writes a frame of the queue.  A frame not
written goes back to the head of the queue that it belongs to now. -/
def writingStep (link : Link) (supervisor : Supervisor) (others : List Supervisor)
    (connection tickDue : Nat) (frame : String) (stimulus : Stimulus) : Link :=
  match stimulus with
  | .wrote => (link.report (.wrote connection frame)).flush supervisor others connection tickDue
  | .writeFailed error =>
      if supervisor.dismissed then
        link.lose { supervisor with parting := frame :: supervisor.parting } others connection error
      else
        { link with outbound := frame :: link.outbound }.lose supervisor others connection error
  | _ => link

/-- What happens to a supervisor that writes the frames handed over. -/
def partingStep (link : Link) (supervisor : Supervisor) (others : List Supervisor)
    (connection tickDue : Nat) (frame : String) (rest : List String) (stimulus : Stimulus) :
    Link :=
  match stimulus with
  | .wrote => (link.report (.wrote connection frame)).depart supervisor others connection tickDue rest
  | .writeFailed error =>
      let link := link.report (.incident (.closingFailed error (rest.length + 1)))
      (link.report (.released connection)).conclude
        { supervisor with parting := frame :: rest } others
  | _ => link

/-- What happens to a supervisor that announces the end. -/
def leavingStep (link : Link) (supervisor : Supervisor) (others : List Supervisor)
    (connection tickDue : Nat) (stimulus : Stimulus) : Link :=
  let closing := Phase.online connection tickDue .closing
  match stimulus with
  | .wrote =>
      let farewell := (Notification.disconnect link.plan.session).frame
      (link.report (.announced connection farewell)).proceed supervisor others closing
  | .writeFailed error =>
      (link.report (.incident (.unannounced error))).proceed supervisor others closing
  | _ => link

/-- What happens to a supervisor that closes its connection. -/
def closingStep (link : Link) (supervisor : Supervisor) (others : List Supervisor)
    (connection : Nat) (stimulus : Stimulus) : Link :=
  match stimulus with
  | .closed => (link.report (.released connection)).conclude supervisor others
  | _ => link

/-- What happens to the supervisor whose turn it is. -/
def stepOf (link : Link) (supervisor : Supervisor) (others : List Supervisor)
    (stimulus : Stimulus) : Link :=
  match supervisor.phase with
  | .waiting =>
      match stimulus with
      | .turn =>
          if supervisor.dismissed then link.conclude supervisor others
          else link.attempt supervisor others
      | _ => link
  | .attempting =>
      if supervisor.dismissed then link.conclude supervisor others
      else
        match stimulus with
        | .accepted => link.openConnection supervisor others
        | .refused error => link.refuse supervisor others error
        | _ => link
  | .delaying due =>
      if supervisor.dismissed then link.conclude supervisor others
      else
        match stimulus with
        | .delayOver =>
            if due ≤ link.now then
              { link with condition := .connecting }.attempt supervisor others
            else link
        | _ => link
  | .online connection tickDue stage =>
      match stage with
      | .idle => link.idleStep supervisor others connection tickDue stimulus
      | .writing frame => link.writingStep supervisor others connection tickDue frame stimulus
      | .parting frame rest =>
          link.partingStep supervisor others connection tickDue frame rest stimulus
      | .leaving => link.leavingStep supervisor others connection tickDue stimulus
      | .closing | .suspending => link.closingStep supervisor others connection stimulus
  | .stranded => link

/-- One stimulus. -/
def step (link : Link) (stimulus : Stimulus) : Link :=
  match link.supervisors with
  | [] => link
  | supervisor :: others => link.stepOf supervisor others stimulus

end Link

end PageSession
