import PageSession.Bench.Schedule

/-!
# What can be done on a bench

Actions of the portal's side and of the page, and ways to look at what has
happened since.
-/

namespace PageSession

namespace Bench

/-! ## The page -/

/-- Ask for a connection.  A page that listens to its client has the events of
the link passed on from its first request on. -/
def connectPage [Json.Complaints] (bench : Bench) : Bench :=
  let bench :=
    match bench.forwarding with
    | some _ => bench
    | none => { bench with forwarding := some [] }.wake .forwarder
  bench.onClient Client.connect

/-- What became of the wish to finish a load. -/
inductive FinishResult where
  | done
  | notLoading
  | tooLate
deriving DecidableEq, Repr

/-- End the load of a URI that waits, well or for a reason badly. -/
def finish (bench : Bench) (uri : String) (reason : Option String) : Bench × FinishResult :=
  match bench.waiting.find? (·.1 == uri) with
  | none => (bench, .notLoading)
  | some (_, number) =>
      let bench := { bench with waiting := bench.waiting.filter (·.1 != uri) }
      if bench.loads.any (·.number == number) then
        let outcome :=
          match reason with
          | none => Except.ok ()
          | some text => .error (.load uri text)
        ((bench.setLoad number (.finished outcome)).wake (.load number), .done)
      else (bench, .tooLate)

/-! ## The portal -/

/-- The peer meant by a number; without one the newest. -/
def peerIndex (bench : Bench) (wanted : Option Nat) : Nat :=
  wanted.getD (bench.peers.length - 1)

/-- The peer meant by a number, if it has not hung up. -/
def livePeer? (bench : Bench) (wanted : Option Nat) : Option Nat :=
  let index := bench.peerIndex wanted
  match bench.peers[index]? with
  | some peer => if peer.gone then none else some index
  | none => none

/-- Wake the supervisor that listens to a connection. -/
def notifyListener (bench : Bench) (connection : Nat) : Bench :=
  if bench.listening = some connection then
    { bench with listening := none }.wakeHeadIf fun supervisor =>
      match supervisor.phase with
      | .online current _ _ => current == connection
      | _ => false
  else bench

/-- Deliver something to the client, so many times. -/
def deliver (bench : Bench) (connection : Nat) (delivery : Delivery) (times : Nat) : Bench :=
  if times = 0 then bench
  else
    (bench.onPeer connection fun peer =>
      if peer.released then peer
      else { peer with incoming := peer.incoming ++ List.replicate times delivery }).notifyListener
        connection

/-- A peer hangs up. -/
def hangUp (bench : Bench) (connection : Nat) : Bench :=
  (bench.onPeer connection fun peer => { peer with gone := true }).notifyListener connection

/-- Begin or cease to leave attempts unanswered. -/
def setHold (bench : Bench) (hold : Bool) : Bench :=
  { bench with hold }.wakeHeadIf fun supervisor =>
    match supervisor.phase with
    | .attempting => true
    | _ => false

/-- Refuse the next attempts. -/
def refuseNext (bench : Bench) (count : Nat) : Bench :=
  { bench with refusals := count }

/-- Change the faults of a connection; of those to come, if there is no such
connection. -/
def setFaults (bench : Bench) (connection : Option Nat) (change : Faults → Faults) : Bench :=
  match connection with
  | some index =>
      if index < bench.peers.length then
        (bench.onPeer index fun peer => { peer with faults := change peer.faults }).wakeHeadIf
          fun supervisor =>
            match supervisor.phase with
            | .online _ _ .idle => false
            | .online current _ _ => current == index
            | _ => false
      else { bench with template := change bench.template }
  | none => { bench with template := change bench.template }

/-! ## Looking -/

/-- Forget what was looked at. -/
def forget (bench : Bench) : Bench :=
  { bench with
    page := []
    events := []
    pageEvents := []
    notes := []
    log := []
    peers := bench.peers.map fun peer =>
      { peer with received := [], releaseSeen := peer.releaseSeen || peer.released } }

/-- The frames written since, by connection; those to peers that hung up are not
seen. -/
def framesSeen (bench : Bench) : List (Nat × String) :=
  bench.peers.zipIdx.flatMap fun (peer, index) =>
    if peer.gone then [] else peer.received.map (index, ·)

/-- The connections that the client has closed since. -/
def releasesSeen (bench : Bench) : List Nat :=
  (bench.peers.zipIdx.filter fun (peer, _) =>
    peer.released && !peer.releaseSeen && !peer.gone).map (·.2)

/-- A peer looks at the frames that it got. -/
def readFrames (bench : Bench) (connection : Nat) : List String × Bench :=
  match bench.peers[connection]? with
  | none => ([], bench)
  | some peer =>
      (peer.received, bench.onPeer connection fun peer => { peer with received := [] })

end Bench

end PageSession
