import PageSession.Bench.Basic

/-!
# What a client's journal means on the bench

Each report is turned into what the surroundings see of it, and wakes the tasks
that wait for it.
-/

namespace PageSession

namespace Bench

/-- Let a task go on, unless it is about to or does so already. -/
def wake (bench : Bench) (task : Task) : Bench :=
  if bench.running = some task || bench.ready.contains task then bench
  else { bench with ready := bench.ready ++ [task] }

/-- The supervisor whose turn it is. -/
def head? (bench : Bench) : Option Supervisor :=
  bench.client.link.supervisors.head?

/-- Whether a supervisor waits at a point where it looks whether it was
dismissed. -/
def attentive (supervisor : Supervisor) : Bool :=
  match supervisor.phase with
  | .attempting | .delaying _ | .online _ _ .idle => true
  | _ => false

/-- Wake the supervisor whose turn it is, if it satisfies a condition. -/
def wakeHeadIf (bench : Bench) (condition : Supervisor → Bool) : Bench :=
  match bench.head? with
  | some supervisor =>
      if condition supervisor then bench.wake (.supervisor supervisor.serial) else bench
  | none => bench

/-- Change the peer of a connection. -/
def onPeer (bench : Bench) (connection : Nat) (change : Peer → Peer) : Bench :=
  { bench with peers := bench.peers.modify connection change }

/-- Tell listeners of an event of the link. -/
def emit (bench : Bench) (event : LinkEvent) : Bench :=
  let bench := { bench with events := bench.events ++ [event] }
  match bench.forwarding with
  | none => bench
  | some pending => { bench with forwarding := some (pending ++ [event]) }.wake .forwarder

/-- A report of the link. -/
def applyLink (bench : Bench) : Link.Report → Bench
  | .started serial => bench.wake (.supervisor serial)
  | .dismissed serial =>
      bench.wakeHeadIf fun supervisor => supervisor.serial == serial && attentive supervisor
  | .ended _ => bench.wakeHeadIf fun _ => true
  | .woken =>
      bench.wakeHeadIf fun supervisor =>
        match supervisor.phase with
        | .online _ _ .idle => true
        | _ => false
  | .wrote connection frame | .announced connection frame =>
      bench.onPeer connection fun peer => { peer with received := peer.received ++ [frame] }
  | .released connection => bench.onPeer connection fun peer => { peer with released := true }
  | .event event => bench.emit event
  | .incident incident => { bench with log := bench.log ++ [incident.line] }
  | .enqueued _ | .attempting _ | .refused _ | .opened _ | .lost _ _ => bench

/-- Note what the page sees. -/
def present (bench : Bench) (call : PageCall) : Bench :=
  { bench with page := bench.page ++ [call] }

/-- A report of the loader. -/
def applyLoader (bench : Bench) : Loader.Report → Bench
  | .stylesheet uri => bench.present (.stylesheet uri)
  | .style css => bench.present (.style css)
  | .execute source => bench.present (.execute source)
  | .lock => bench.present .lock
  | .unlock => bench.present .unlock
  | .fetch uri =>
      let number := bench.loadsStarted
      { bench with
        loads := bench.loads ++ [({ number, uri } : Load)]
        loadsStarted := number + 1 }.wake (.load number)
  | .incident incident => { bench with log := bench.log ++ [incident.line] }

/-- A report of the client. -/
def applyReport [Json.Complaints] (bench : Bench) : Client.Report → Bench
  | .link report => bench.applyLink report
  | .loader report => bench.applyLoader report
  | .incident incident => { bench with log := bench.log ++ [incident.line] }
  | .noted entry => { bench with notes := bench.notes ++ [entry] }
  | .reload => { bench with pageEvents := bench.pageEvents ++ [.reload] }
  | .taken _ | .called _ => bench

/-- Let something happen to the client, and act on what it reports. -/
def onClient [Json.Complaints] (bench : Bench) (change : Client → Client) : Bench :=
  let client := change bench.client
  client.journal.foldl applyReport
    { bench with client := { client with journal := [] } }

/-- Let something happen to the link. -/
def onLink [Json.Complaints] (bench : Bench) (change : Link → Link) : Bench :=
  bench.onClient (·.onLink change)

end Bench

end PageSession
