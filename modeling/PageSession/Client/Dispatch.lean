import PageSession.Client.Basic

/-!
# Handling the notifications that arrived

Notifications are handled one after the other, in the order of their arrival,
and only while no lock is held.  While one is being handled nothing else starts
to handle the queue: whatever a handler unlocks, the queue is gone on with after
it.
-/

namespace PageSession

namespace Client

/-- Undo one lock.  With the last one gone the queue is handled by `drain`,
unless that is going on already. -/
def unlockThen (drain : Client → Client) (client : Client) : Client :=
  match client.inbox.locks with
  | 0 => client.report (.incident .unlockIgnored)
  | locks + 1 =>
      let client := { client with inbox := { client.inbox with locks } }
      if locks = 0 && !client.inbox.dispatching then drain client else client

/-- Do what a handler asks. -/
def perform (drain : Client → Client) (client : Client) : Command → Client
  | .note entry => client.report (.noted entry)
  | .lock => client.lock
  | .unlock => client.unlockThen drain
  | .send notification => client.send notification
  | .connect => client.connect
  | .close => client.close
  | .handle method program => client.handle method (.custom program)
  | .handlePortlet portletClass method program =>
      client.handlePortlet portletClass method program

/-- Run the program of a handler to its end. -/
def runProgram (drain : Client → Client) (client : Client) : Program → Client × Outcome
  | .done outcome => (client, outcome)
  | .look next => runProgram drain client (next client.snapshot)
  | .perform command next => runProgram drain (client.perform drain command) next

/-- Do what the loader wants done. -/
def applyLoader (drain : Client → Client) (client : Client) (entry : Loader.Report) : Client :=
  let client := client.report (.loader entry)
  match entry with
  | .lock => client.lock
  | .unlock => client.unlockThen drain
  | _ => client

/-- Let something happen to the loader, and do what it wants done. -/
def onLoader (drain : Client → Client) (client : Client) (change : Loader → Loader) : Client :=
  let loader := change client.loader
  loader.journal.foldl (applyLoader drain)
    { client with loader := { loader with journal := [] } }

/-- Take in what an announcement asks for. -/
def submitThen (drain : Client → Client) (client : Client) (resources : PageResources) : Client :=
  client.onLoader drain fun loader => loader.submit client.host resources

/-- Call the method of a portlet.  A call that nobody registered for is no
failure: the portlet may be gone. -/
def callPortlet (drain : Client → Client) (client : Client) (call : PortletCall) :
    Client × Outcome :=
  match client.portlets.find? (call.portletClass, call.method) with
  | none => (client, .success)
  | some program =>
      (client.report (.called call)).runProgram drain (program call.portlet call.params)

/-- Do what a notification of the portal asks for. -/
def answer (drain : Client → Client) (client : Client) (request : PortalRequest) :
    Client × Outcome :=
  match request with
  | .reload => (client.report .reload, .success)
  | .addResources resources => (client.submitThen drain resources, .success)
  | .restoreLayout layout => ({ client with layout := some layout }, .success)
  | .callPortlet call => client.callPortlet drain call
  | .other _ => (client, .success)

/-- Give parameters to a handler. -/
def runHandler (drain : Client → Client) (client : Client) (handler : Handler)
    (params : List Json.Value) : Client × Outcome :=
  match handler with
  | .custom program => client.runProgram drain (program params)
  | .standard method =>
      match PortalRequest.ofNotification (.carrying method params) with
      | .ok request => client.answer drain request
      | .error error => (client, .failure (.wire error))

/-- A failure is logged and goes no further. -/
def settleOutcome (client : Client) (method : String) : Outcome → Client
  | .success => client
  | .failure failure => client.report (.incident (.handlerFailed method failure))
  | .panic message => client.report (.incident (.handlerPanicked method message))

/-- Handle one notification.  The queue is being handled already, so nothing is
left to do for an unlock. -/
def handleOne (client : Client) (notification : Notification) : Client :=
  let client := client.report (.taken notification)
  match client.handlers.find? notification.method with
  | none => client.report (.incident (.unhandled notification.method))
  | some handler =>
      let (client, outcome) := client.runHandler id handler notification.arguments
      client.settleOutcome notification.method outcome

/-- Handle the notifications of the queue, which are given, until a lock is held
or none is left. -/
def drainQueue (client : Client) : List Notification → Client
  | [] => { client with inbox := { client.inbox with dispatching := false } }
  | notification :: rest =>
      if client.inbox.locks = 0 then
        let taken := { client with inbox := { client.inbox with queue := rest } }
        (taken.handleOne notification).drainQueue rest
      else { client with inbox := { client.inbox with dispatching := false } }

/-- Handle the queue, unless that is going on already. -/
def dispatch (client : Client) : Client :=
  if client.inbox.dispatching then client
  else
    { client with inbox := { client.inbox with dispatching := true } }.drainQueue
      client.inbox.queue

/-! ## What comes from outside of any handler -/

/-- A frame of the portal has arrived. -/
def receive (client : Client) (frame : String) : Client :=
  match Notification.ofFrame frame with
  | .error error => client.report (.incident (.undecodable error))
  | .ok notification =>
      { client with inbox := { client.inbox with
          queue := client.inbox.queue ++ [notification] } }.dispatch

def unlock (client : Client) : Client :=
  client.unlockThen dispatch

def submit (client : Client) (resources : PageResources) : Client :=
  client.submitThen dispatch resources

/-- The load of a URI has come to its end. -/
def completeLoad (client : Client) (uri : String) (outcome : Except ScriptError Unit) : Client :=
  client.onLoader dispatch fun loader => loader.complete client.host uri outcome

/-- Call the method of a portlet directly. -/
def invokePortlet (client : Client) (call : PortletCall) : Client × Outcome :=
  client.callPortlet dispatch call

/-- Give parameters to the handler of a method directly, if there is one. -/
def invokeHandler (client : Client) (method : String) (params : List Json.Value) :
    Client × Option Outcome :=
  match client.handlers.find? method with
  | none => (client, none)
  | some handler =>
      let (client, outcome) := client.runHandler dispatch handler params
      (client, some outcome)

end Client

end PageSession
