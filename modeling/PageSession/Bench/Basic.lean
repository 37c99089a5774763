import PageSession.Client.Dispatch

/-!
# A bench for a client

The bench plays everything around a client: the portal's ends of its
connections, the page that runs its scripts, and the clock.  Work that the
client has started waits in a line of tasks and is done in order, while the
clock stands still.
-/

namespace PageSession

namespace Bench

/-- What is wrong with a connection. -/
structure Faults where
  /-- How many more writes succeed; without a number all do. -/
  okWrites : Option Nat := none
  /-- Writes wait. -/
  block : Bool := false
  /-- Closing waits. -/
  blockClose : Bool := false
  /-- Closing fails. -/
  failClose : Bool := false
deriving DecidableEq, Repr

/-- What the portal's end of a connection delivers. -/
inductive Delivery where
  | frame (text : String)
  | failure (reason : String)
deriving DecidableEq, Repr

/-- The portal's end of a connection. -/
structure Peer where
  endpoint : String
  faults : Faults
  /-- Delivered and not yet read by the client. -/
  incoming : List Delivery := []
  /-- Written by the client and not yet looked at. -/
  received : List String := []
  /-- It has hung up. -/
  gone : Bool := false
  /-- The client has closed the connection. -/
  released : Bool := false
  /-- That was noticed. -/
  releaseSeen : Bool := false
deriving DecidableEq, Repr

/-- Who answers attempts to connect. -/
inductive Answerer where
  /-- Attempts are accepted, each by a new peer, unless they are refused. -/
  | peers
  /-- Every attempt fails for one reason. -/
  | failing (reason : String)
deriving DecidableEq, Repr

/-- A piece of work that goes on by itself. -/
inductive Task where
  | supervisor (serial : Nat)
  | load (number : Nat)
  /-- Events of the link are passed on to the page. -/
  | forwarder
deriving DecidableEq, Repr

/-- A time at which a task is to be woken. -/
structure Timer where
  due : Nat
  task : Task
deriving DecidableEq, Repr

/-- How far the load of a script has come. -/
inductive LoadState where
  | fresh
  /-- It waits for its end, at most until a time. -/
  | waiting (due : Option Nat)
  | finished (outcome : Except ScriptError Unit)

/-- The load of a script. -/
structure Load where
  number : Nat
  uri : String
  state : LoadState := .fresh

/-- What a page sees done to it. -/
inductive PageCall where
  | stylesheet (uri : String)
  | style (css : String)
  | execute (source : String)
  | load (uri : String)
  | lock
  | unlock
deriving DecidableEq, Repr

/-- A call as the page records it. -/
def PageCall.text : PageCall → String
  | .stylesheet uri => "css:" ++ uri
  | .style css => "style:" ++ css
  | .execute source => "exec:" ++ source
  | .load uri => "load:" ++ uri
  | .lock => "lock"
  | .unlock => "unlock"

/-- What the page is told. -/
inductive PageEvent where
  | reload
  | link (event : LinkEvent)
deriving DecidableEq, Repr

/-- The name of an event. -/
def PageEvent.name : PageEvent → String
  | .reload => "Reload"
  | .link event => "Transport(" ++ event.name ++ ")"

/-- A page's inline scripts fail when their source contains this. -/
def failingSource : String := "throw"

/-- Whether a list occurs within another. -/
def occurs (part : List Char) : List Char → Bool
  | [] => part.isEmpty
  | head :: rest => part.isPrefixOf (head :: rest) || occurs part rest

/-- The page's way with inline scripts. -/
def host : ScriptHost :=
  { execute := fun _ source =>
      if occurs failingSource.toList source.toList then .error (.execute source) else .ok () }

/-- How many events a slow reader may leave unread. -/
def eventCapacity : Nat := 64

/-- How many frames a task may read, or delays and ticks it may wait out, before it
lets others go on. -/
def readBudget : Nat := 128

/-- How many turns a round of tasks has at most. -/
def turnsPerRound : Nat := 61

end Bench

/-- A client with everything around it. -/
structure Bench where
  client : Client
  answerer : Bench.Answerer := .peers
  peers : List Bench.Peer := []
  /-- The faults of connections to come. -/
  template : Bench.Faults := {}
  /-- Attempts to connect are not answered. -/
  hold : Bool := false
  /-- How many of the next attempts are refused. -/
  refusals : Nat := 0
  attempts : Nat := 0
  /-- The tasks that can go on, in order. -/
  ready : List Bench.Task := []
  /-- The tasks that let others go on until the round is over. -/
  deferred : List Bench.Task := []
  /-- How many turns the round has had. -/
  turns : Nat := 0
  /-- The task that goes on at the moment. -/
  running : Option Bench.Task := none
  /-- How many more frames that task may read, delays and ticks included. -/
  budget : Nat := 0
  timers : List Bench.Timer := []
  /-- The connection whose next delivery wakes its supervisor. -/
  listening : Option Nat := none
  loads : List Bench.Load := []
  loadsStarted : Nat := 0
  /-- For each URI the load that can be finished by hand. -/
  waiting : List (String × Nat) := []
  /-- URIs whose loads end at once: well, or for a reason badly. -/
  automatic : List (String × Option String) := []
  loadTimeout : Option Nat := none
  /-- Events to be passed on to the page, once it listens. -/
  forwarding : Option (List LinkEvent) := none
  /-- What has happened since it was last looked at. -/
  page : List Bench.PageCall := []
  events : List LinkEvent := []
  pageEvents : List Bench.PageEvent := []
  notes : List Json.Value := []
  log : List LogLine := []

end PageSession
