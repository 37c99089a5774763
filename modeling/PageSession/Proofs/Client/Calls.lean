import PageSession.Client.Dispatch
import PageSession.Proofs.Link.Run

/-!
# Calls of a client, step by step

A call of a client is carried out in steps, between which other calls may go
on: only what happens to the state of the client under one hold of its guard is
one step.  What is left to do in a call is a list of duties, the next one first.
A duty may put others before those that follow it: this is how a handler, or
the loader, comes to handle the queue in the middle of its own work.

The moments that matter for the order of notifications are recorded in a
history, which no step looks at.
-/

namespace PageSession.Client

/-- Who takes locks on the stream of notifications. -/
inductive Party where
  | page
  | loader
deriving DecidableEq, Repr

/-- A moment that matters for the order of notifications. -/
inductive Moment where
  | received (frame : String)
  | taken (notification : Notification)
  | finished (notification : Notification)
  | locked (party : Party)
  | unlocked (party : Party)
  /-- An unlock that found no lock. -/
  | ignored (party : Party)

/-- One thing left to do in a call. -/
inductive Duty where
  /-- Handle the queue, unless that is going on already. -/
  | dispatch
  /-- Take the next notification, if there is one and no lock is held. -/
  | drain
  /-- Look up the handler of a notification that was taken. -/
  | invoke (notification : Notification)
  /-- The handler of a notification has come back. -/
  | finish (notification : Notification)
  /-- Go on with a program.  How it ends is logged if it handles a method. -/
  | run (handled : Option String) (program : Program)
  /-- Do what the loader wants done. -/
  | serve (entries : List Loader.Report)

/-- What one step makes of a client, what it adds to the duties of its call, and
what is recorded of it. -/
structure Effect where
  client : Client
  duties : List Duty := []
  moments : List Moment := []

/-- How a program ends is logged if it handles a method. -/
def settleHandled (client : Client) (handled : Option String) (outcome : Outcome) :
    Client :=
  match handled with
  | none => client
  | some method => client.settleOutcome method outcome

/-- Undo one lock.  With the last one gone the queue is to be handled. -/
def unlockEffect (client : Client) (party : Party) : Effect where
  client := client.unlockThen id
  duties := if client.inbox.locks = 1 then [.dispatch] else []
  moments := if client.inbox.locks = 0 then [.ignored party] else [.unlocked party]

def commandEffect (client : Client) (command : Command) : Effect :=
  match command with
  | .lock => { client := client.lock, moments := [.locked .page] }
  | .unlock => client.unlockEffect .page
  | command => { client := client.perform id command }

def entryEffect (client : Client) (entry : Loader.Report) : Effect :=
  let client := client.report (.loader entry)
  match entry with
  | .lock => { client := client.lock, moments := [.locked .loader] }
  | .unlock => client.unlockEffect .loader
  | _ => { client }

def loaderEffect (client : Client) (change : Loader → Loader) : Effect :=
  let loader := change client.loader
  { client := { client with loader := { loader with journal := [] } }
    duties := [.serve loader.journal] }

def portletEffect (client : Client) (handled : Option String) (call : PortletCall) :
    Effect :=
  match client.portlets.find? (call.portletClass, call.method) with
  | none => { client }
  | some program =>
      { client := client.report (.called call)
        duties := [.run handled (program call.portlet call.params)] }

def requestEffect (client : Client) (handled : Option String)
    (request : PortalRequest) : Effect :=
  match request with
  | .addResources resources =>
      client.loaderEffect fun loader => loader.submit client.host resources
  | .callPortlet call => client.portletEffect handled call
  | request => { client := (client.answer id request).1 }

def handlerEffect (client : Client) (handled : Option String) (handler : Handler)
    (params : List Json.Value) : Effect :=
  match handler with
  | .custom program => { client, duties := [.run handled (program params)] }
  | .standard method =>
      match PortalRequest.ofNotification (.carrying method params) with
      | .ok request => client.requestEffect handled request
      | .error error =>
          { client := client.settleHandled handled (.failure (.wire error)) }

/-- The client while it handles the queue, or while it does not. -/
def flagged (client : Client) (dispatching : Bool) : Client :=
  { client with inbox := { client.inbox with dispatching } }

/-- The client once the next notification was taken. -/
def taking (client : Client) (notification : Notification) (rest : List Notification) :
    Client :=
  { client with inbox := { client.inbox with queue := rest } }.report
    (.taken notification)

/-- Carry out one duty, up to the next moment at which other calls may go on. -/
def Duty.step (client : Client) : Duty → Effect
  | .dispatch =>
      if client.inbox.dispatching then { client }
      else { client := client.flagged true, duties := [.drain] }
  | .drain =>
      if client.inbox.locks = 0 then
        match client.inbox.queue with
        | [] => { client := client.flagged false }
        | notification :: rest =>
            { client := client.taking notification rest
              duties := [.invoke notification, .finish notification]
              moments := [.taken notification] }
      else { client := client.flagged false }
  | .invoke notification =>
      match client.handlers.find? notification.method with
      | none => { client := client.report (.incident (.unhandled notification.method)) }
      | some handler =>
          client.handlerEffect (some notification.method) handler notification.arguments
  | .finish notification =>
      { client, duties := [.drain], moments := [.finished notification] }
  | .run handled (.done outcome) => { client := client.settleHandled handled outcome }
  | .run handled (.look next) =>
      { client, duties := [.run handled (next client.snapshot)] }
  | .run handled (.perform command next) =>
      let effect := client.commandEffect command
      { effect with duties := effect.duties ++ [.run handled next] }
  | .serve [] => { client }
  | .serve (entry :: entries) =>
      let effect := client.entryEffect entry
      { effect with duties := effect.duties ++ [.serve entries] }

/-! ## The loop over the queue -/

section Loop

variable {client : Client}

theorem step_dispatch_busy (busy : client.inbox.dispatching = true) :
    Duty.step client .dispatch = { client } := by
  simp [Duty.step, busy]

theorem step_dispatch_idle (idle : client.inbox.dispatching = false) :
    Duty.step client .dispatch
      = { client := client.flagged true, duties := [.drain] } := by
  simp [Duty.step, idle]

theorem step_drain_take {notification : Notification} {rest : List Notification}
    (unlocked : client.inbox.locks = 0)
    (waiting : client.inbox.queue = notification :: rest) :
    Duty.step client .drain =
      { client := client.taking notification rest
        duties := [.invoke notification, .finish notification]
        moments := [.taken notification] } := by
  simp [Duty.step, unlocked, waiting]

theorem step_drain_empty (empty : client.inbox.queue = []) :
    Duty.step client .drain = { client := client.flagged false } := by
  simp [Duty.step, empty]

theorem step_drain_locked (locked : client.inbox.locks ≠ 0) :
    Duty.step client .drain = { client := client.flagged false } := by
  simp [Duty.step, locked]

@[simp] theorem inbox_flagged (dispatching : Bool) :
    (client.flagged dispatching).inbox = { client.inbox with dispatching } := rfl

@[simp] theorem inbox_taking (notification : Notification) (rest : List Notification) :
    (client.taking notification rest).inbox = { client.inbox with queue := rest } := rfl

end Loop

/-! ## Calls -/

/-- What comes to a client from outside of any handler. -/
inductive Call where
  | receive (frame : String)
  | lock
  | unlock
  /-- Something happens to the link: a frame is sent, a connection is asked for
  or closed, or the supervisor reacts. -/
  | link (action : Link.Action)
  | handle (method : String) (program : List Json.Value → Program)
  | handlePortlet (portletClass method : String)
      (program : PortletId → List Json.Value → Program)
  | submit (resources : PageResources)
  | completeLoad (uri : String) (outcome : Except ScriptError Unit)
  | invokePortlet (call : PortletCall)
  | invokeHandler (method : String) (params : List Json.Value)

def Call.start (client : Client) : Call → Effect
  | .receive frame =>
      match Notification.ofFrame frame with
      | .error error =>
          { client := client.report (.incident (.undecodable error))
            moments := [.received frame] }
      | .ok notification =>
          { client := { client with inbox := { client.inbox with
              queue := client.inbox.queue ++ [notification] } }
            duties := [.dispatch]
            moments := [.received frame] }
  | .lock => { client := client.lock, moments := [.locked .page] }
  | .unlock => client.unlockEffect .page
  | .link action => { client := client.onLink (·.perform action) }
  | .handle method program => { client := client.handle method (.custom program) }
  | .handlePortlet portletClass method program =>
      { client := client.handlePortlet portletClass method program }
  | .submit resources =>
      client.loaderEffect fun loader => loader.submit client.host resources
  | .completeLoad uri outcome =>
      client.loaderEffect fun loader => loader.complete client.host uri outcome
  | .invokePortlet call => client.portletEffect none call
  | .invokeHandler method params =>
      match client.handlers.find? method with
      | none => { client }
      | some handler => client.handlerEffect none handler params

/-- A client, the calls of it that are in progress, and what happened. -/
structure Activity where
  client : Client
  calls : List (List Duty) := []
  history : List Moment := []

/-- All that is left to do, in whatever call. -/
def Activity.duties (activity : Activity) : List Duty :=
  activity.calls.flatten

/-- A call begins, or one of those in progress goes on by one step. -/
inductive Activity.Step (activity : Activity) : Activity → Prop
  | begin (call : Call) :
      Step activity
        { client := (call.start activity.client).client
          calls := activity.calls ++ [(call.start activity.client).duties]
          history := activity.history ++ (call.start activity.client).moments }
  | proceed {before after : List (List Duty)} {duty : Duty} {rest : List Duty}
      (chosen : activity.calls = before ++ (duty :: rest) :: after) :
      Step activity
        { client := (duty.step activity.client).client
          calls := before ++ ((duty.step activity.client).duties ++ rest) :: after
          history := activity.history ++ (duty.step activity.client).moments }

/-! ## The inbox -/

section Inbox

variable (client : Client)

@[simp] theorem inbox_report (entry : Report) :
    (client.report entry).inbox = client.inbox := rfl

@[simp] theorem inbox_onLink (change : Link → Link) :
    (client.onLink change).inbox = client.inbox := rfl

@[simp] theorem inbox_lock :
    client.lock.inbox = { client.inbox with locks := client.inbox.locks + 1 } := rfl

@[simp] theorem inbox_unlockThen_id :
    (client.unlockThen id).inbox
      = { client.inbox with locks := client.inbox.locks - 1 } := by
  unfold unlockThen
  split
  · rename_i none
    cases inbox : client.inbox
    simp_all
  · rename_i locks held
    simp [held]

@[simp] theorem inbox_settleOutcome (method : String) (outcome : Outcome) :
    (client.settleOutcome method outcome).inbox = client.inbox := by
  cases outcome <;> rfl

@[simp] theorem inbox_settleHandled (handled : Option String) (outcome : Outcome) :
    (client.settleHandled handled outcome).inbox = client.inbox := by
  cases handled with
  | none => rfl
  | some method => exact inbox_settleOutcome client method outcome

end Inbox

end PageSession.Client
