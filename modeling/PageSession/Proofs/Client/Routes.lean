import PageSession.Proofs.Client.Chronicle

/-!
# Routes of notifications and of calls of portlets

Handlers of methods and methods of portlets are registered by calls, and by programs in
the middle of a call.  Where the parameters of a notification lead is decided by what was
registered last under the one key that is asked for, among all registrations.

Each deed keeps the tables of a client equal to the history of registrations, and does
what the route of its parameters prescribes.
-/

namespace PageSession.Client

open Json

/-! ## Registrations -/

/-- A handler is registered for a method, or a method of a class of portlets is. -/
inductive Registration where
  | forMethod (method : String) (handler : Handler)
  | forPortlet (portletClass method : String) (program : PortletId → List Value → Program)

/-- What is registered for a method. -/
def Registration.handlerFor? (method : String) : Registration → Option Handler
  | .forMethod name handler => if method = name then some handler else none
  | .forPortlet .. => none

/-- What is registered for a method of a class of portlets. -/
def Registration.portletFor? (portletClass method : String) :
    Registration → Option (PortletId → List Value → Program)
  | .forMethod .. => none
  | .forPortlet owner name program =>
      if (portletClass, method) = (owner, name) then some program else none

/-- Who was registered last for a method. -/
def latestHandler? (registrations : List Registration) (method : String) : Option Handler :=
  (registrations.filterMap (·.handlerFor? method)).getLast?

def latestPortlet? (registrations : List Registration) (portletClass method : String) :
    Option (PortletId → List Value → Program) :=
  (registrations.filterMap (·.portletFor? portletClass method)).getLast?

def Command.registers : Command → List Registration
  | .handle method program => [.forMethod method (.custom program)]
  | .handlePortlet portletClass method program => [.forPortlet portletClass method program]
  | _ => []

def Call.registers : Call → List Registration
  | .handle method program => [.forMethod method (.custom program)]
  | .handlePortlet portletClass method program => [.forPortlet portletClass method program]
  | _ => []

def Duty.registers : Duty → List Registration
  | .run _ (.perform command _) => Command.registers command
  | _ => []

def Deed.registers : Deed → List Registration
  | .begin call => call.registers
  | .perform duty => duty.registers

/-- Everything that has been registered, the client's own handlers first. -/
def registered (deeds : List Deed) : List Registration :=
  standardMethods.map (fun method => .forMethod method (.standard method)) ++
    deeds.flatMap Deed.registers

/-! ## Routes -/

/-- What becomes of parameters that are given to a method. -/
inductive Route where
  /-- Nobody handles the method. -/
  | unhandled
  /-- The client handles the method and does not understand the parameters. -/
  | refused (error : WireError)
  /-- The page is loaded anew, by the client itself, as are resources and layouts. -/
  | reload
  | load (resources : PageResources)
  | restore (layout : PageLayout)
  /-- Nobody registered for the call of a portlet. -/
  | ignored
  /-- The program of a handler runs. -/
  | handed (program : Program)
  /-- The program of a portlet's method runs. -/
  | called (call : PortletCall) (program : Program)

/-- Where the call of a portlet goes. -/
def routeCall (registrations : List Registration) (call : PortletCall) : Route :=
  match latestPortlet? registrations call.portletClass call.method with
  | none => .ignored
  | some program => .called call (program call.portlet call.params)

/-- Where the parameters of a method go. -/
def route (registrations : List Registration) (method : String) (params : List Value) : Route :=
  match latestHandler? registrations method with
  | none => .unhandled
  | some (.custom program) => .handed (program params)
  | some (.standard own) =>
      match PortalRequest.ofNotification (.carrying own params) with
      | .error error => .refused error
      | .ok .reload => .reload
      | .ok (.addResources resources) => .load resources
      | .ok (.restoreLayout layout) => .restore layout
      | .ok (.callPortlet call) => routeCall registrations call
      | .ok (.other _) => .ignored

/-- Where a deed sends what it is about, if it looks up who is registered. -/
def Deed.route? (registrations : List Registration) : Deed → Option Route
  | .perform (.invoke notification) =>
      some (route registrations notification.method notification.arguments)
  | .begin (.invokePortlet call) => some (routeCall registrations call)
  | .begin (.invokeHandler method params) => some (route registrations method params)
  | _ => none

/-- The method whose notification a deed gives to its handler. -/
def Deed.handled? : Deed → Option String
  | .perform (.invoke notification) => some notification.method
  | _ => none

/-- The one program that a route runs. -/
def Route.program? : Route → Option Program
  | .handed program | .called _ program => some program
  | _ => none

/-- What is reported of a route that leads to a reload or to a portlet. -/
def Route.answer? : Route → Option Report
  | .reload => some .reload
  | .called call _ => some (.called call)
  | _ => none

def Route.layout? : Route → Option PageLayout
  | .restore layout => some layout
  | _ => none

def Route.effect (client : Client) (handled : Option String) : Route → Effect
  | .unhandled =>
      { client := handled.elim client fun method => client.report (.incident (.unhandled method)) }
  | .refused error => { client := client.settleHandled handled (.failure (.wire error)) }
  | .reload => { client := client.report .reload }
  | .load resources => client.loaderEffect fun loader => loader.submit client.host resources
  | .restore layout => { client := { client with layout := some layout } }
  | .ignored => { client }
  | .handed program => { client, duties := [.run handled program] }
  | .called call program =>
      { client := client.report (.called call), duties := [.run handled program] }

/-! ## The tables -/

section Latest

variable (registrations : List Registration) (registration : Registration)
  (portletClass method : String)

theorem latestHandler?_append_singleton :
    latestHandler? (registrations ++ [registration]) method =
      (registration.handlerFor? method).or (latestHandler? registrations method) := by
  simp only [latestHandler?, List.filterMap_append, List.filterMap_cons, List.filterMap_nil]
  cases registration.handlerFor? method <;> simp

theorem latestPortlet?_append_singleton :
    latestPortlet? (registrations ++ [registration]) portletClass method =
      (registration.portletFor? portletClass method).or
        (latestPortlet? registrations portletClass method) := by
  simp only [latestPortlet?, List.filterMap_append, List.filterMap_cons, List.filterMap_nil]
  cases registration.portletFor? portletClass method <;> simp

end Latest

/-- The tables of a client hold what was registered last. -/
structure Tabulates (registrations : List Registration) (client : Client) : Prop where
  handlers : ∀ method, client.handlers.find? method = latestHandler? registrations method
  portlets : ∀ portletClass method,
    client.portlets.find? (portletClass, method) =
      latestPortlet? registrations portletClass method

namespace Tabulates

variable {registrations : List Registration} {client other : Client}

theorem unchanged (tabulates : Tabulates registrations client)
    (handlers : other.handlers = client.handlers) (portlets : other.portlets = client.portlets) :
    Tabulates (registrations ++ []) other := by
  rw [List.append_nil]
  exact ⟨handlers ▸ tabulates.handlers, portlets ▸ tabulates.portlets⟩

theorem handle (tabulates : Tabulates registrations client) (method : String)
    (handler : Handler) :
    Tabulates (registrations ++ [.forMethod method handler]) (client.handle method handler) where
  handlers := by
    intro wanted
    rw [latestHandler?_append_singleton, ← tabulates.handlers, Registration.handlerFor?]
    refine (Registry.find?_register client.handlers method wanted handler).trans ?_
    split <;> simp_all
  portlets := by
    intro portletClass wanted
    rw [latestPortlet?_append_singleton]
    exact tabulates.portlets portletClass wanted

theorem handlePortlet (tabulates : Tabulates registrations client)
    (portletClass method : String) (program : PortletId → List Value → Program) :
    Tabulates (registrations ++ [.forPortlet portletClass method program])
      (client.handlePortlet portletClass method program) where
  handlers := by
    intro wanted
    rw [latestHandler?_append_singleton]
    exact tabulates.handlers wanted
  portlets := by
    intro wantedClass wanted
    rw [latestPortlet?_append_singleton, ← tabulates.portlets, Registration.portletFor?]
    refine (Registry.find?_register client.portlets (portletClass, method) (wantedClass, wanted)
      program).trans ?_
    split <;> rfl

end Tabulates

theorem tabulates_startStandard (plan : LinkPlan) (host : ScriptHost) :
    Tabulates (registered []) (startStandard plan host) := by
  have empty : Tabulates [] (start plan host) := ⟨fun _ => rfl, fun _ _ => rfl⟩
  exact (((empty.handle _ _).handle _ _).handle _ _).handle _ _

/-! ## What a deed brings -/

/-- The notification whose handler a duty looks up. -/
def Duty.lookup? : Duty → Option Notification
  | .invoke notification => some notification
  | _ => none

def Deed.lookup? : Deed → Option Notification
  | .begin _ => none
  | .perform duty => duty.lookup?

/-- The notifications whose handlers are to be looked up. -/
def lookups (duties : List Duty) : List Notification :=
  duties.filterMap Duty.lookup?

def Duty.program? : Duty → Option Program
  | .run _ program => some program
  | _ => none

/-- The programs that are to be gone on with. -/
def programs (duties : List Duty) : List Program :=
  duties.filterMap Duty.program?

/-- What a deed leaves to do of the program that it goes on with. -/
def Deed.remainder? (client : Client) : Deed → Option Program
  | .perform (.run _ (.look next)) => some (next client.snapshot)
  | .perform (.run _ (.perform _ next)) => some next
  | _ => none

/-- The end of a program. -/
def Deed.ended? : Deed → Option Program
  | .perform (.run _ (.done outcome)) => some (.done outcome)
  | _ => none

/-- A report of a reload or of a portlet's call. -/
def Report.answer? : Report → Option Report
  | .reload => some .reload
  | .called call => some (.called call)
  | _ => none

/-- The reloads and the calls of portlets that were reported. -/
def answered (client : Client) : List Report :=
  client.journal.filterMap Report.answer?

/-- A client has the registrations, the layout and the answers of another one. -/
structure Keeps (client other : Client) : Prop where
  handlers : other.handlers = client.handlers
  portlets : other.portlets = client.portlets
  layout : other.layout = client.layout
  answered : other.answered = client.answered

/-- An effect enters registrations into the tables, adds to the duties what remains of a
program, and leads where a route does.  A handler is to be looked up for what is taken
from the queue. -/
structure Brings (client : Client) (effect : Effect) (registrations : List Registration)
    (remainder : Option Program) (route : Option Route) : Prop where
  tables : ∀ before, Tabulates before client →
    Tabulates (before ++ registrations) effect.client
  lookups : Client.lookups effect.duties = takings effect.moments
  programs : Client.programs effect.duties =
    remainder.toList ++ (route.bind Route.program?).toList
  answered : effect.client.answered = client.answered ++ (route.bind Route.answer?).toList
  layout : effect.client.layout = (route.bind Route.layout?).or client.layout

theorem Brings.append {client : Client} {effect : Effect} {registrations : List Registration}
    (brings : Brings client effect registrations none none) {duty : Duty}
    (silent : duty.lookup? = none) :
    Brings client { effect with duties := effect.duties ++ [duty] } registrations
      duty.program? none :=
  { brings with
    lookups := by
      rw [← brings.lookups]
      simp [Client.lookups, silent]
    programs := by
      have none : Client.programs effect.duties = [] := brings.programs
      simp only [Client.programs, List.filterMap_append] at none ⊢
      rw [none]
      cases added : duty.program? <;> simp [added] }

namespace Keeps

variable {client other : Client}

theorem refl (client : Client) : Keeps client client :=
  ⟨rfl, rfl, rfl, rfl⟩

theorem report (keeps : Keeps client other) {entry : Report} (silent : entry.answer? = none) :
    Keeps client (other.report entry) :=
  { keeps with
    answered := by
      rw [← keeps.answered]
      simp [Client.answered, Client.report, silent] }

theorem onLink (keeps : Keeps client other) (change : Link → Link) :
    Keeps client (other.onLink change) :=
  { keeps with
    answered := by
      rw [← keeps.answered]
      simp [Client.answered, Client.onLink, List.filterMap_map, Function.comp_def, Report.answer?] }

theorem lock (keeps : Keeps client other) : Keeps client other.lock :=
  ⟨keeps.handlers, keeps.portlets, keeps.layout, keeps.answered⟩

theorem unlockThen_id (keeps : Keeps client other) : Keeps client (other.unlockThen id) := by
  unfold unlockThen
  split
  · exact keeps.report rfl
  · dsimp only
    split <;> exact ⟨keeps.handlers, keeps.portlets, keeps.layout, keeps.answered⟩

theorem settleHandled (keeps : Keeps client other) (handled : Option String)
    (outcome : Outcome) : Keeps client (other.settleHandled handled outcome) := by
  cases handled with
  | none => exact keeps
  | some method =>
      cases outcome with
      | success => exact keeps
      | failure failure => exact keeps.report rfl
      | panic message => exact keeps.report rfl

theorem brings {effect : Effect} (keeps : Keeps client effect.client)
    (lookups : Client.lookups effect.duties = takings effect.moments)
    {remainder : Option Program} (remains : Client.programs effect.duties = remainder.toList) :
    Brings client effect [] remainder none where
  tables := fun _ tabulates => tabulates.unchanged keeps.handlers keeps.portlets
  lookups := lookups
  programs := by simpa using remains
  answered := by simpa using keeps.answered
  layout := keeps.layout

/-- A route to no reload, layout or portlet. -/
theorem routed {effect : Effect} (keeps : Keeps client effect.client) {route : Route}
    (lookups : Client.lookups effect.duties = takings effect.moments)
    (runs : Client.programs effect.duties = route.program?.toList)
    (silent : route.answer? = none) (unchanged : route.layout? = none) :
    Brings client effect [] none (some route) where
  tables := fun _ tabulates => tabulates.unchanged keeps.handlers keeps.portlets
  lookups := lookups
  programs := runs
  answered := by simpa [silent] using keeps.answered
  layout := by simpa [unchanged] using keeps.layout

end Keeps

section Effects

variable (client : Client) (handled : Option String)

theorem brings_unlockEffect (party : Party) :
    Brings client (client.unlockEffect party) [] none none := by
  apply (Keeps.refl client).unlockThen_id.brings
  · by_cases last : client.inbox.locks = 1 <;> by_cases none : client.inbox.locks = 0 <;>
      simp [unlockEffect, last, none, lookups, Duty.lookup?]
  · by_cases last : client.inbox.locks = 1 <;>
      simp [unlockEffect, last, programs, Duty.program?]

theorem brings_handle (method : String) (handler : Handler) :
    Brings client { client := client.handle method handler } [.forMethod method handler] none
      none where
  tables := fun _ tabulates => tabulates.handle method handler
  lookups := rfl
  programs := rfl
  answered := (List.append_nil _).symm
  layout := rfl

theorem brings_handlePortlet (portletClass method : String)
    (program : PortletId → List Value → Program) :
    Brings client { client := client.handlePortlet portletClass method program }
      [.forPortlet portletClass method program] none none where
  tables := fun _ tabulates => tabulates.handlePortlet portletClass method program
  lookups := rfl
  programs := rfl
  answered := (List.append_nil _).symm
  layout := rfl

theorem brings_commandEffect (command : Command) :
    Brings client (client.commandEffect command) (Command.registers command) none none := by
  have unchanged := Keeps.refl client
  cases command with
  | note entry => exact (unchanged.report rfl).brings rfl rfl
  | lock => exact unchanged.lock.brings rfl rfl
  | unlock => exact brings_unlockEffect client .page
  | send notification => exact (unchanged.onLink (·.send notification.frame)).brings rfl rfl
  | connect => exact (unchanged.onLink Link.connect).brings rfl rfl
  | close => exact (unchanged.onLink Link.close).brings rfl rfl
  | handle method program => exact brings_handle client method _
  | handlePortlet portletClass method program =>
      exact brings_handlePortlet client portletClass method program

theorem brings_entryEffect (entry : Loader.Report) :
    Brings client (client.entryEffect entry) [] none none := by
  have reported : Keeps client (client.report (.loader entry)) := (Keeps.refl client).report rfl
  cases entry with
  | lock => exact reported.lock.brings rfl rfl
  | unlock =>
      have unlocked := brings_unlockEffect (client.report (.loader .unlock)) .loader
      exact reported.unlockThen_id.brings unlocked.lookups unlocked.programs
  | _ => exact reported.brings rfl rfl

theorem brings_loaderEffect (change : Loader → Loader) :
    Brings client (client.loaderEffect change) [] none none := by
  have kept : Keeps client (client.loaderEffect change).client := ⟨rfl, rfl, rfl, rfl⟩
  exact kept.brings rfl rfl

/-- The loop over the queue stops, or takes the next notification. -/
theorem step_drain_cases :
    Duty.step client .drain = { client := client.flagged false } ∨
      ∃ notification rest, Duty.step client .drain =
        { client := client.taking notification rest
          duties := [.invoke notification, .finish notification]
          moments := [.taken notification] } := by
  by_cases unlocked : client.inbox.locks = 0
  case neg => exact .inl (step_drain_locked unlocked)
  case pos =>
    cases waiting : client.inbox.queue with
    | nil => exact .inl (step_drain_empty waiting)
    | cons notification rest => exact .inr ⟨_, _, step_drain_take unlocked waiting⟩

theorem brings_drain : Brings client (Duty.step client .drain) [] none none := by
  rcases step_drain_cases client with stops | ⟨notification, rest, takes⟩
  · rw [stops]
    have kept : Keeps client (client.flagged false) := ⟨rfl, rfl, rfl, rfl⟩
    exact kept.brings rfl rfl
  · have taken : Keeps client { client with inbox := { client.inbox with queue := rest } } :=
      ⟨rfl, rfl, rfl, rfl⟩
    rw [takes]
    have reported := @Keeps.report _ _ taken (.taken notification) rfl
    exact reported.brings rfl rfl

theorem brings_route (route : Route) :
    Brings client (route.effect client handled) [] none (some route) := by
  have same := Keeps.refl client
  have tables : ∀ {other : Client}, other.handlers = client.handlers →
      other.portlets = client.portlets → ∀ before, Tabulates before client →
        Tabulates (before ++ []) other :=
    fun handlers portlets _ tabulates => tabulates.unchanged handlers portlets
  cases route with
  | unhandled =>
      cases handled with
      | none => exact same.routed rfl rfl rfl rfl
      | some method =>
          have reported := @Keeps.report _ _ same (.incident (.unhandled method)) rfl
          exact reported.routed rfl rfl rfl rfl
  | refused error => exact (same.settleHandled handled _).routed rfl rfl rfl rfl
  | load resources =>
      have kept : Keeps client (Route.effect client handled (.load resources)).client :=
        ⟨rfl, rfl, rfl, rfl⟩
      exact kept.routed rfl rfl rfl rfl
  | ignored => exact same.routed rfl rfl rfl rfl
  | handed program => exact same.routed rfl rfl rfl rfl
  | reload => exact ⟨tables rfl rfl, rfl, rfl, List.filterMap_append, rfl⟩
  | restore layout => exact ⟨tables rfl rfl, rfl, rfl, (List.append_nil _).symm, rfl⟩
  | called call program => exact ⟨tables rfl rfl, rfl, rfl, List.filterMap_append, rfl⟩

end Effects

/-! ## Where a deed leads -/

section Deeds

variable {client : Client} {registrations : List Registration}
  (tabulates : Tabulates registrations client)
include tabulates

theorem portletEffect_eq (handled : Option String) (call : PortletCall) :
    client.portletEffect handled call =
      (routeCall registrations call).effect client handled := by
  rw [portletEffect, routeCall, tabulates.portlets]
  cases latestPortlet? registrations call.portletClass call.method <;> rfl

theorem handlerEffect_eq {method : String} {handler : Handler}
    (found : latestHandler? registrations method = some handler) (handled : Option String)
    (params : List Value) :
    client.handlerEffect handled handler params =
      (route registrations method params).effect client handled := by
  unfold route handlerEffect
  rw [found]
  cases handler with
  | custom program => rfl
  | standard own =>
      cases understood : PortalRequest.ofNotification (.carrying own params) with
      | error error => simp only [understood]; rfl
      | ok request =>
          simp only [understood]
          cases request with
          | callPortlet call => exact portletEffect_eq tabulates handled call
          | _ => rfl

theorem effect_eq_of_route? {deed : Deed} {route : Route}
    (routed : deed.route? registrations = some route) :
    deed.effect client = route.effect client deed.handled? := by
  unfold Deed.route? at routed
  split at routed
  · next notification =>
      cases routed
      cases found : latestHandler? registrations notification.method with
      | none =>
          simp [Deed.effect, Duty.step, tabulates.handlers, found, Client.route, Route.effect,
            Deed.handled?]
      | some handler =>
          rw [← handlerEffect_eq tabulates found]
          simp [Deed.effect, Duty.step, tabulates.handlers, found, Deed.handled?]
  · next call =>
      cases routed
      exact portletEffect_eq tabulates none call
  · next method params =>
      cases routed
      cases found : latestHandler? registrations method with
      | none =>
          simp [Deed.effect, Call.start, tabulates.handlers, found, Client.route, Route.effect,
            Deed.handled?]
      | some handler =>
          rw [← handlerEffect_eq tabulates found]
          simp [Deed.effect, Call.start, tabulates.handlers, found, Deed.handled?]
  · cases routed

theorem brings_routed {deed : Deed} {route : Route}
    (routed : deed.route? registrations = some route) :
    Brings client (deed.effect client) [] none (some route) := by
  rw [effect_eq_of_route? tabulates routed]
  exact brings_route client deed.handled? route

theorem brings_start (call : Call) :
    Brings client (call.start client) call.registers none
      ((Deed.begin call).route? registrations) := by
  have same := Keeps.refl client
  cases call with
  | receive frame =>
      cases decoded : Notification.ofFrame frame with
      | error error =>
          have reported := @Keeps.report _ _ same (.incident (.undecodable error)) rfl
          simp only [Call.start, decoded]
          exact reported.brings rfl rfl
      | ok notification =>
          have queued : Keeps client { client with inbox := { client.inbox with
              queue := client.inbox.queue ++ [notification] } } := ⟨rfl, rfl, rfl, rfl⟩
          simp only [Call.start, decoded]
          exact queued.brings rfl rfl
  | lock => exact same.lock.brings rfl rfl
  | unlock => exact brings_unlockEffect client .page
  | link action => exact (same.onLink (·.perform action)).brings rfl rfl
  | handle method program => exact brings_handle client method _
  | handlePortlet portletClass method program =>
      exact brings_handlePortlet client portletClass method program
  | submit resources =>
      exact brings_loaderEffect client fun loader => loader.submit client.host resources
  | completeLoad uri outcome =>
      exact brings_loaderEffect client fun loader => loader.complete client.host uri outcome
  | invokePortlet call =>
      exact @brings_routed _ _ tabulates (.begin (.invokePortlet call)) _ rfl
  | invokeHandler method params =>
      exact @brings_routed _ _ tabulates (.begin (.invokeHandler method params)) _ rfl

theorem brings_step (duty : Duty) :
    Brings client (duty.step client) duty.registers ((Deed.perform duty).remainder? client)
      ((Deed.perform duty).route? registrations) := by
  have same := Keeps.refl client
  cases duty with
  | dispatch =>
      cases flag : client.inbox.dispatching with
      | true =>
          rw [step_dispatch_busy flag]
          exact same.brings rfl rfl
      | false =>
          have kept : Keeps client (client.flagged true) := ⟨rfl, rfl, rfl, rfl⟩
          rw [step_dispatch_idle flag]
          exact kept.brings rfl rfl
  | drain => exact brings_drain client
  | invoke notification =>
      exact @brings_routed _ _ tabulates (.perform (.invoke notification)) _ rfl
  | finish notification => exact same.brings rfl rfl
  | run handled program =>
      cases program with
      | done outcome => exact (same.settleHandled handled outcome).brings rfl rfl
      | look next => exact @Keeps.brings _ _ same rfl (some (next client.snapshot)) rfl
      | perform command next =>
          exact @Brings.append _ _ _ (brings_commandEffect client command) (.run handled next) rfl
  | serve entries =>
      cases entries with
      | nil => exact same.brings rfl rfl
      | cons entry entries =>
          exact @Brings.append _ _ _ (brings_entryEffect client entry) (.serve entries) rfl

end Deeds

end PageSession.Client
