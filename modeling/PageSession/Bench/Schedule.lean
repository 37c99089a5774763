import PageSession.Bench.Journal
import PageSession.Link.Step

/-!
# How tasks go on

A task goes on until it has to wait; then the next one in line does.  A task
that waits is woken by what it waits for, or by the clock.
-/

namespace PageSession

namespace Bench

/-- The running task has to wait. -/
def pause (bench : Bench) : Bench :=
  { bench with running := none }

/-- The running task lets the others go on until the round is over. -/
def yield (bench : Bench) (task : Task) : Bench :=
  { bench.pause with deferred := bench.deferred ++ [task] }

/-- The running task has taken something in, or gone on because of the clock. -/
def spend (bench : Bench) : Bench :=
  { bench with budget := bench.budget - 1 }

/-- Wake a task at a time.  It waits for one time only. -/
def wakeAt (bench : Bench) (due : Nat) (task : Task) : Bench :=
  let timer : Timer := { due, task }
  if bench.timers.contains timer then bench
  else { bench with timers := (bench.timers.filter (·.task != task)) ++ [timer] }

/-! ## Supervisors -/

/-- Answer an attempt to connect. -/
def answerAttempt [Json.Complaints] (bench : Bench) : Bench :=
  match bench.answerer with
  | .failing reason =>
      bench.onLink (·.step (.refused (.connect bench.client.link.plan.endpoint reason)))
  | .peers =>
      let bench := { bench with attempts := bench.attempts + 1 }
      let endpoint := bench.client.link.plan.endpoint
      match bench.refusals with
      | refusals + 1 =>
          { bench with refusals }.onLink (·.step (.refused (.connect endpoint "refused")))
      | 0 =>
          { bench with
            peers := bench.peers ++ [({ endpoint, faults := bench.template } : Peer)] }.onLink
              (·.step .accepted)

/-- Whether writes on a connection wait. -/
def writeBlocked (bench : Bench) (connection : Nat) : Bool :=
  match bench.peers[connection]? with
  | some peer => peer.faults.block
  | none => false

/-- The outcome of a write that does not wait. -/
def writeOutcome (bench : Bench) (connection : Nat) : Stimulus :=
  match bench.peers[connection]? with
  | none => .writeFailed .connectionClosed
  | some peer =>
      if peer.faults.okWrites = some 0 then .writeFailed (.send "injected")
      else if peer.gone then .writeFailed .connectionClosed
      else .wrote

/-- One write fewer is left to succeed. -/
def spendWrite (faults : Faults) : Faults :=
  { faults with okWrites := faults.okWrites.map (· - 1) }

/-- Write the frame that a supervisor is at. -/
def write [Json.Complaints] (bench : Bench) (connection : Nat) : Bench :=
  if bench.writeBlocked connection then bench.pause
  else
    let outcome := bench.writeOutcome connection
    let bench := bench.onPeer connection fun peer => { peer with faults := spendWrite peer.faults }
    bench.onLink (·.step outcome)

/-- Close the connection that a supervisor is done with. -/
def finishClosing [Json.Complaints] (bench : Bench) (connection : Nat) : Bench :=
  match bench.peers[connection]? with
  | some peer =>
      if peer.faults.blockClose then bench.pause else bench.onLink (·.step .closed)
  | none => bench.onLink (·.step .closed)

/-- Read what a peer has delivered: the first of it, with what is left. -/
def nextDelivery (bench : Bench) (connection : Nat) : Option (Option Delivery) :=
  match bench.peers[connection]? with
  | none => some none
  | some peer =>
      match peer.incoming with
      | delivery :: _ => some (some delivery)
      | [] => if peer.gone then some none else none

/-- Take in what was read; without a delivery the peer has hung up. -/
def read [Json.Complaints] (bench : Bench) (connection : Nat) (delivery : Option Delivery) : Bench :=
  let bench := bench.spend
  let bench := bench.onPeer connection fun peer => { peer with incoming := peer.incoming.tail }
  match delivery with
  | none => bench.onLink (·.step (.readFailed .connectionClosed))
  | some (.failure reason) => bench.onLink (·.step (.readFailed (.receive reason)))
  | some (.frame text) => (bench.onClient (·.receive text)).onLink (·.step .handled)

/-- A supervisor looks for something to do on its open connection: first it
reads, then it takes a wake-up, then a tick that is due. -/
def attend [Json.Complaints] (bench : Bench) (supervisor : Supervisor) (connection tickDue : Nat) : Bench :=
  let task := Task.supervisor supervisor.serial
  let exhausted := bench.budget = 0
  if supervisor.dismissed then bench.onLink (·.step .glance)
  else
    match (if exhausted then none else bench.nextDelivery connection) with
    | some delivery => bench.read connection delivery
    | none =>
        if bench.client.link.wakeUp then bench.onLink (·.step .wake)
        else if exhausted then bench.yield task
        else if tickDue ≤ bench.client.link.now then bench.spend.onLink (·.step .tick)
        else ({ bench with listening := some connection }.wakeAt tickDue task).pause

/-- The supervisor whose turn it is goes on. -/
def supervise [Json.Complaints] (bench : Bench) (supervisor : Supervisor) : Bench :=
  match supervisor.phase with
  | .waiting => bench.onLink (·.step .turn)
  | .attempting =>
      if supervisor.dismissed then bench.onLink (·.step .glance)
      else if bench.hold then bench.pause
      else bench.answerAttempt
  | .delaying due =>
      if supervisor.dismissed then bench.onLink (·.step .glance)
      else if bench.budget = 0 then bench.yield (.supervisor supervisor.serial)
      else if due ≤ bench.client.link.now then bench.spend.onLink (·.step .delayOver)
      else (bench.wakeAt due (.supervisor supervisor.serial)).pause
  | .online connection tickDue stage =>
      match stage with
      | .idle => bench.attend supervisor connection tickDue
      | .writing _ | .parting _ _ | .leaving => bench.write connection
      | .closing | .suspending => bench.finishClosing connection
  | .stranded => bench.pause

/-! ## Loads -/

/-- Milliseconds in nanoseconds. -/
def nanoseconds (milliseconds : Nat) : Nat :=
  milliseconds * 1000000

/-- Change the state of a load. -/
def setLoad (bench : Bench) (number : Nat) (state : LoadState) : Bench :=
  { bench with
    loads := bench.loads.map fun load =>
      if load.number = number then { load with state } else load }

/-- A load has come to its end. -/
def endLoad [Json.Complaints] (bench : Bench) (load : Load) (outcome : Except ScriptError Unit) : Bench :=
  let bench := { bench with loads := bench.loads.filter (·.number != load.number) }
  (bench.onClient (·.completeLoad load.uri outcome)).pause

/-- Register a load as the one that can be finished for its URI. -/
def awaitFinish (bench : Bench) (load : Load) : Bench :=
  { bench with
    waiting := (load.uri, load.number) :: bench.waiting.filter (·.1 != load.uri) }

/-- A load begins. -/
def beginLoad [Json.Complaints] (bench : Bench) (load : Load) : Bench :=
  let bench := bench.present (.load load.uri)
  match bench.automatic.find? (·.1 == load.uri) with
  | some (_, none) => bench.endLoad load (.ok ())
  | some (_, some reason) => bench.endLoad load (.error (.load load.uri reason))
  | none =>
      let due := bench.loadTimeout.map (bench.client.link.now + ·)
      let bench := (bench.awaitFinish load).setLoad load.number (.waiting due)
      match due with
      | some due => (bench.wakeAt due (.load load.number)).pause
      | none => bench.pause

/-- A load goes on. -/
def continueLoad [Json.Complaints] (bench : Bench) (load : Load) : Bench :=
  match load.state with
  | .fresh => bench.beginLoad load
  | .finished outcome => bench.endLoad load outcome
  | .waiting none => bench.pause
  | .waiting (some due) =>
      if due ≤ bench.client.link.now then
        bench.endLoad load
          (.error (.timeout load.uri (nanoseconds (bench.loadTimeout.getD 0))))
      else bench.pause

/-! ## All tasks -/

/-- What a slow reader finds: how many events it has missed, and the rest. -/
def unread {α : Type} (events : List α) : Nat × List α :=
  let missed := events.length - eventCapacity
  (missed, events.drop missed)

/-- The log line that says how many events of the link were not passed on. -/
def missedLine (missed : Nat) : LogLine :=
  .warn "portal_client::client" "transport events lagged" [("skipped", .number missed)]

/-- Pass events of the link on to the page. -/
def forward (bench : Bench) : Bench :=
  let (missed, events) := unread (bench.forwarding.getD [])
  { bench with
    forwarding := some []
    log := if missed = 0 then bench.log else bench.log ++ [missedLine missed]
    pageEvents := bench.pageEvents ++ events.map PageEvent.link }.pause

/-- A task goes on. -/
def continueTask [Json.Complaints] (bench : Bench) : Task → Bench
  | .supervisor serial =>
      match bench.head? with
      | some supervisor =>
          if supervisor.serial = serial then bench.supervise supervisor else bench.pause
      | none => bench.pause
  | .load number =>
      match bench.loads.find? (·.number == number) with
      | some load => bench.continueLoad load
      | none => bench.pause
  | .forwarder => bench.forward

/-- A round is over: those who let others go on can go on themselves. -/
def nextRound (bench : Bench) : Bench :=
  bench.deferred.foldl wake { bench with deferred := [], turns := 0 }

/-- It is the turn of the first task that can go on. -/
def nextTurn (bench : Bench) : Bench :=
  match bench.ready with
  | [] => bench.nextRound
  | task :: rest =>
      { bench with
        ready := rest
        running := some task
        turns := bench.turns + 1
        budget := readBudget }

/-- The next thing that happens while the clock stands still, if any. -/
def next? [Json.Complaints] (bench : Bench) : Option Bench :=
  match bench.running with
  | some task => some (bench.continueTask task)
  | none =>
      if bench.ready.isEmpty && bench.deferred.isEmpty then none
      else if bench.turns = turnsPerRound then some bench.nextRound
      else some bench.nextTurn

/-- Let at most so many things happen. -/
def settleWithin [Json.Complaints] : Nat → Bench → Bench
  | 0, bench => bench
  | limit + 1, bench =>
      match bench.next? with
      | none => bench
      | some next => settleWithin limit next

/-- More than happens on any bench between two ticks of the clock. -/
def settleLimit : Nat := 1000000

/-- Let everything happen that can while the clock stands still. -/
def settle [Json.Complaints] (bench : Bench) : Bench :=
  settleWithin settleLimit { bench with turns := 0 }

/-! ## The clock -/

/-- The earliest time at which a timer is due. -/
def earliest? (bench : Bench) : Option Nat :=
  (bench.timers.map (·.due)).min?

/-- Set the clock, wake what is due then, and let everything happen. -/
def moveTo [Json.Complaints] (bench : Bench) (time : Nat) : Bench :=
  let bench := bench.onLink fun link => { link with now := max link.now time }
  let due := bench.timers.filter (·.due ≤ time)
  let bench := { bench with timers := bench.timers.filter fun timer => !(timer.due ≤ time) }
  (due.foldl (fun bench timer => bench.wake timer.task) bench).settle

/-- Let time pass up to a target, stopping at each timer on the way, at most so
many times. -/
def advanceWithin [Json.Complaints] (target : Nat) : Nat → Bench → Bench
  | 0, bench => bench.moveTo target
  | stops + 1, bench =>
      match bench.earliest? with
      | some due =>
          if due ≤ target then advanceWithin target stops (bench.moveTo due)
          else bench.moveTo target
      | none => bench.moveTo target

/-- Let time pass.  Timers are whole milliseconds apart, so there is at most one
stop for each. -/
def advance [Json.Complaints] (bench : Bench) (milliseconds : Nat) : Bench :=
  advanceWithin (bench.client.link.now + milliseconds) (milliseconds + 2) bench.settle

end Bench

end PageSession
