import PageSession.Proofs.Client.Gating

/-!
# Clients that differ in what waits

A program is blind if it does not depend on how many notifications wait.  Two
clients that differ in their queues, and otherwise at most in what they have
logged, do the same under the same duties, as long as their programs are blind.
So they stay as similar as they were.
-/

namespace PageSession

mutual

/-- A program that does not depend on how many notifications wait. -/
def Program.Blind : Program → Prop
  | .done _ => True
  | .look next =>
      (∀ (snapshot : Snapshot) (pending : Nat),
          next { snapshot with pending } = next snapshot) ∧
        ∀ snapshot, (next snapshot).Blind
  | .perform command next => command.Blind ∧ next.Blind

/-- A command that registers nothing but blind programs. -/
def Command.Blind : Command → Prop
  | .handle _ program => ∀ params, (program params).Blind
  | .handlePortlet _ _ program => ∀ portlet params, (program portlet params).Blind
  | _ => True

end

namespace Client

/-- A client with nothing but blind programs. -/
structure Blind (client : Client) : Prop where
  handlers : ∀ method program, client.handlers.find? method = some (.custom program) →
    ∀ params, (program params).Blind
  portlets : ∀ key program, client.portlets.find? key = some program →
    ∀ portlet params, (program portlet params).Blind

def Duty.Blind : Duty → Prop
  | .run _ program => program.Blind
  | _ => True

def Call.Blind : Call → Prop
  | .handle _ program => ∀ params, (program params).Blind
  | .handlePortlet _ _ program => ∀ portlet params, (program portlet params).Blind
  | _ => True

/-- The notification that a call brings, if it brings one. -/
def Call.brings : Call → List Notification
  | .receive frame => (Notification.ofFrame frame).toOption.toList
  | _ => []

theorem blind_start (plan : LinkPlan) (host : ScriptHost) : (start plan host).Blind where
  handlers := by
    intro method program found
    contradiction
  portlets := by
    intro key program found
    contradiction

theorem Blind.handle {client : Client} (blind : client.Blind) (method : String)
    {handler : Handler}
    (given : ∀ program, handler = .custom program → ∀ params, (program params).Blind) :
    (client.handle method handler).Blind where
  handlers := by
    intro other program found
    rw [Client.handle, Registry.find?_register] at found
    split at found
    · exact given program (Option.some.inj found)
    · exact blind.handlers other program found
  portlets := blind.portlets

theorem Blind.handlePortlet {client : Client} (blind : client.Blind)
    (portletClass method : String) {program : PortletId → List Json.Value → Program}
    (given : ∀ portlet params, (program portlet params).Blind) :
    (client.handlePortlet portletClass method program).Blind where
  handlers := blind.handlers
  portlets := by
    intro key other found
    rw [Client.handlePortlet, Registry.find?_register] at found
    split at found
    · exact Option.some.inj found ▸ given
    · exact blind.portlets key other found

theorem blind_startStandard (plan : LinkPlan) (host : ScriptHost) :
    (startStandard plan host).Blind := by
  unfold startStandard
  generalize standardMethods = methods
  have blind := blind_start plan host
  generalize start plan host = client at blind
  induction methods generalizing client with
  | nil => exact blind
  | cons method methods induction =>
      apply induction
      apply blind.handle
      intro program same
      contradiction

/-! ## Queues with notifications left out -/

/-- A queue without the notifications that are marked. -/
def thin (omitted : List Bool) (queue : List Notification) : List Notification :=
  ((omitted.zip queue).filter (!·.1)).map (·.2)

section Thin

variable (omitted : List Bool) (queue : List Notification) (notification : Notification)

@[simp] theorem thin_nil : thin omitted [] = [] := by
  simp [thin]

@[simp] theorem thin_cons_true :
    thin (true :: omitted) (notification :: queue) = thin omitted queue := by
  simp [thin]

@[simp] theorem thin_cons_false :
    thin (false :: omitted) (notification :: queue)
      = notification :: thin omitted queue := by
  simp [thin]

theorem thin_append {omitted : List Bool} {queue : List Notification}
    (counted : omitted.length = queue.length) (others : List Bool)
    (more : List Notification) :
    thin (omitted ++ others) (queue ++ more) = thin omitted queue ++ thin others more := by
  simp [thin, List.zip_append counted]

/-- All of a queue is left out, or none of it. -/
theorem thin_map_const (mark : Bool) :
    thin (queue.map fun _ => mark) queue = bif mark then [] else queue := by
  induction queue with
  | nil => simp
  | cons notification queue induction => cases mark <;> simpa using induction

end Thin

/-! ## Similar clients -/

/-- Whether a report is of more than the log and the course of the queue. -/
def Report.lasts : Report → Bool
  | .incident _ | .taken _ => false
  | _ => true

/-- A client and another one, in whose queue the marked notifications are left
out and which may have logged less. -/
structure Similar (omitted : List Bool) (client other : Client) : Prop where
  link : other.link = client.link
  host : other.host = client.host
  handlers : other.handlers = client.handlers
  portlets : other.portlets = client.portlets
  loader : other.loader = client.loader
  layout : other.layout = client.layout
  locks : other.inbox.locks = client.inbox.locks
  queue : other.inbox.queue = thin omitted client.inbox.queue
  counted : omitted.length = client.inbox.queue.length
  journal : other.journal.Sublist client.journal
  lasting : other.journal.filter Report.lasts = client.journal.filter Report.lasts

theorem similar_refl (client : Client) :
    Similar (client.inbox.queue.map fun _ => false) client client where
  link := rfl
  host := rfl
  handlers := rfl
  portlets := rfl
  loader := rfl
  layout := rfl
  locks := rfl
  queue := (thin_map_const _ false).symm
  counted := by simp
  journal := .refl _
  lasting := rfl

namespace Similar

variable {omitted : List Bool} {client other : Client}

theorem reports (similar : Similar omitted client other) (entries : List Report) :
    Similar omitted { client with journal := client.journal ++ entries }
      { other with journal := other.journal ++ entries } :=
  { similar with
    journal := similar.journal.append (.refl entries)
    lasting := by rw [List.filter_append, List.filter_append, similar.lasting] }

theorem report (similar : Similar omitted client other) (entry : Report) :
    Similar omitted (client.report entry) (other.report entry) :=
  similar.reports [entry]

/-- A report that does not last may be missing. -/
theorem report_left (similar : Similar omitted client other) {entry : Report}
    (passing : entry.lasts = false) : Similar omitted (client.report entry) other :=
  { similar with
    journal := similar.journal.trans (List.sublist_append_left _ _)
    lasting := by
      rw [similar.lasting, Client.report, List.filter_append,
        List.filter_cons_of_neg (by simp [passing]), List.filter_nil, List.append_nil] }

theorem onLink (similar : Similar omitted client other) (change : Link → Link) :
    Similar omitted (client.onLink change) (other.onLink change) := by
  unfold Client.onLink
  rw [similar.link]
  exact { similar.reports ((change client.link).journal.map .link) with link := rfl }

theorem lock (similar : Similar omitted client other) :
    Similar omitted client.lock other.lock :=
  { similar with locks := congrArg (· + 1) similar.locks }

theorem unlockThen_id (similar : Similar omitted client other) :
    Similar omitted (client.unlockThen id) (other.unlockThen id) := by
  unfold Client.unlockThen
  rw [similar.locks]
  split
  · exact similar.report _
  · simp only [id_eq, ite_self]
    exact { similar with locks := rfl }

theorem handle (similar : Similar omitted client other) (method : String)
    (handler : Handler) :
    Similar omitted (client.handle method handler) (other.handle method handler) :=
  { similar with handlers := congrArg (·.register method handler) similar.handlers }

theorem handlePortlet (similar : Similar omitted client other)
    (portletClass method : String) (program : PortletId → List Json.Value → Program) :
    Similar omitted (client.handlePortlet portletClass method program)
      (other.handlePortlet portletClass method program) :=
  { similar with
    portlets := congrArg (·.register (portletClass, method) program) similar.portlets }

theorem settleHandled (similar : Similar omitted client other) (handled : Option String)
    (outcome : Outcome) :
    Similar omitted (client.settleHandled handled outcome)
      (other.settleHandled handled outcome) := by
  cases handled with
  | none => exact similar
  | some method =>
      cases outcome with
      | success => exact similar
      | failure failure => exact similar.report _
      | panic message => exact similar.report _

theorem flagged (similar : Similar omitted client other) (busy otherBusy : Bool) :
    Similar omitted (client.flagged busy) (other.flagged otherBusy) :=
  { similar with }

theorem flagged_left (similar : Similar omitted client other) (busy : Bool) :
    Similar omitted (client.flagged busy) other :=
  { similar with }

/-- What arrives joins both queues. -/
theorem arrive (similar : Similar omitted client other) (notification : Notification) :
    Similar (omitted ++ [false])
      { client with inbox := { client.inbox with
          queue := client.inbox.queue ++ [notification] } }
      { other with inbox := { other.inbox with
          queue := other.inbox.queue ++ [notification] } } :=
  { similar with
    queue := by
      rw [thin_append similar.counted, similar.queue]
      simp
    counted := by simp [similar.counted] }

theorem arrive_left (similar : Similar omitted client other)
    (notification : Notification) :
    Similar (omitted ++ [true])
      { client with inbox := { client.inbox with
          queue := client.inbox.queue ++ [notification] } } other :=
  { similar with
    queue := by
      rw [thin_append similar.counted, similar.queue]
      simp
    counted := by simp [similar.counted] }

section Taking

variable {notification : Notification} {rest : List Notification}
  (waiting : client.inbox.queue = notification :: rest)
include waiting

theorem exists_mark (similar : Similar omitted client other) :
    ∃ mark marks, omitted = mark :: marks := by
  have counted := similar.counted
  rw [waiting] at counted
  exact List.exists_cons_of_length_eq_add_one counted

theorem queue_eq_cons (similar : Similar (false :: omitted) client other) :
    other.inbox.queue = notification :: thin omitted rest := by
  rw [similar.queue, waiting, thin_cons_false]

theorem take (similar : Similar (false :: omitted) client other) :
    Similar omitted (client.taking notification rest)
      (other.taking notification (thin omitted rest)) := by
  have counted := similar.counted
  rw [waiting] at counted
  exact { similar.report (.taken notification) with
    queue := rfl
    counted := Nat.succ.inj counted }

theorem take_left (similar : Similar (true :: omitted) client other) :
    Similar omitted (client.taking notification rest) other := by
  have counted := similar.counted
  rw [waiting] at counted
  have passing : (Report.taken notification).lasts = false := rfl
  exact { similar.report_left passing with
    queue := by rw [similar.queue, waiting, thin_cons_true]; rfl
    counted := Nat.succ.inj counted }

end Taking

/-- What a blind program sees is the same. -/
theorem snapshot (similar : Similar omitted client other) :
    other.snapshot = { client.snapshot with pending := other.inbox.queue.length } := by
  simp [Client.snapshot, similar.link, similar.locks]

end Similar

/-! ## Effects on similar clients -/

/-- Duties that start no handler of a notification and run blind programs. -/
def Inner (duties : List Duty) : Prop :=
  ∀ duty ∈ duties, duty.Blind ∧ duty.enters = false

theorem inner_nil : Inner [] := by
  intro duty member
  contradiction

theorem inner_singleton {duty : Duty} (blind : duty.Blind) (stays : duty.enters = false) :
    Inner [duty] := by
  intro other member
  rw [List.mem_singleton.mp member]
  exact ⟨blind, stays⟩

theorem Inner.append {duties others : List Duty} (inner : Inner duties)
    (otherInner : Inner others) : Inner (duties ++ others) := by
  intro duty member
  rcases List.mem_append.mp member with member | member
  · exact inner duty member
  · exact otherInner duty member

/-- The effect on a client and that on a similar one: they leave similar clients
with the same duties, and everything is as blind as before. -/
structure Mirrors (omitted : List Bool) (effect image : Effect) : Prop where
  similar : Similar omitted effect.client image.client
  duties : image.duties = effect.duties
  blind : effect.client.Blind
  inner : Inner effect.duties

theorem Mirrors.append {omitted : List Bool} {effect image : Effect}
    (mirrors : Mirrors omitted effect image) {duty : Duty} (inner : Inner [duty]) :
    Mirrors omitted { effect with duties := effect.duties ++ [duty] }
      { image with duties := image.duties ++ [duty] } where
  similar := mirrors.similar
  duties := congrArg (· ++ [duty]) mirrors.duties
  blind := mirrors.blind
  inner := mirrors.inner.append inner

theorem Blind.unlockThen_id {client : Client} (blind : client.Blind) :
    (client.unlockThen id).Blind := by
  unfold unlockThen
  split
  · exact ⟨blind.handlers, blind.portlets⟩
  · simp only [id_eq, ite_self]
    exact ⟨blind.handlers, blind.portlets⟩

theorem Blind.settleHandled {client : Client} (blind : client.Blind)
    (handled : Option String) (outcome : Outcome) :
    (client.settleHandled handled outcome).Blind := by
  cases handled <;> cases outcome <;> exact ⟨blind.handlers, blind.portlets⟩

section Effects

variable {omitted : List Bool} {client other : Client}
  (similar : Similar omitted client other) (blind : client.Blind)
include similar blind

theorem mirrors_unlockEffect (party : Party) :
    Mirrors omitted (client.unlockEffect party) (other.unlockEffect party) where
  similar := similar.unlockThen_id
  duties := by simp only [unlockEffect, similar.locks]
  blind := blind.unlockThen_id
  inner := by
    unfold unlockEffect
    split
    · exact inner_singleton trivial rfl
    · exact inner_nil

theorem mirrors_commandEffect {command : Command} (shown : command.Blind) :
    Mirrors omitted (client.commandEffect command) (other.commandEffect command) := by
  cases command with
  | note entry =>
      exact ⟨similar.report _, rfl, ⟨blind.handlers, blind.portlets⟩, inner_nil⟩
  | lock => exact ⟨similar.lock, rfl, ⟨blind.handlers, blind.portlets⟩, inner_nil⟩
  | unlock => exact mirrors_unlockEffect similar blind .page
  | handle method program =>
      refine ⟨similar.handle _ _, rfl, blind.handle method ?_, inner_nil⟩
      intro given same
      cases same
      exact shown
  | handlePortlet portletClass method program =>
      exact ⟨similar.handlePortlet _ _ _, rfl, blind.handlePortlet _ _ shown, inner_nil⟩
  | send notification =>
      exact ⟨similar.onLink (·.send notification.frame), rfl,
        ⟨blind.handlers, blind.portlets⟩, inner_nil⟩
  | connect =>
      exact ⟨similar.onLink Link.connect, rfl, ⟨blind.handlers, blind.portlets⟩,
        inner_nil⟩
  | close =>
      exact ⟨similar.onLink Link.close, rfl, ⟨blind.handlers, blind.portlets⟩, inner_nil⟩

theorem mirrors_entryEffect (entry : Loader.Report) :
    Mirrors omitted (client.entryEffect entry) (other.entryEffect entry) := by
  have reported := similar.report (.loader entry)
  have stillBlind : (client.report (.loader entry)).Blind :=
    ⟨blind.handlers, blind.portlets⟩
  cases entry with
  | lock => exact ⟨reported.lock, rfl, ⟨blind.handlers, blind.portlets⟩, inner_nil⟩
  | unlock => exact mirrors_unlockEffect reported stillBlind .loader
  | _ => exact ⟨reported, rfl, stillBlind, inner_nil⟩

theorem mirrors_loaderEffect (change : Loader → Loader) :
    Mirrors omitted (client.loaderEffect change) (other.loaderEffect change) := by
  unfold loaderEffect
  rw [similar.loader]
  exact
    { similar := { similar with loader := rfl }
      duties := rfl
      blind := ⟨blind.handlers, blind.portlets⟩
      inner := inner_singleton trivial rfl }

theorem mirrors_portletEffect (handled : Option String) (call : PortletCall) :
    Mirrors omitted (client.portletEffect handled call)
      (other.portletEffect handled call) := by
  unfold portletEffect
  rw [similar.portlets]
  cases found : client.portlets.find? (call.portletClass, call.method) with
  | none => exact ⟨similar, rfl, blind, inner_nil⟩
  | some program =>
      have given := blind.portlets _ _ found call.portlet call.params
      exact ⟨similar.report _, rfl, ⟨blind.handlers, blind.portlets⟩,
        inner_singleton given rfl⟩

theorem mirrors_requestEffect (handled : Option String) (request : PortalRequest) :
    Mirrors omitted (client.requestEffect handled request)
      (other.requestEffect handled request) := by
  cases request with
  | reload => exact ⟨similar.report _, rfl, ⟨blind.handlers, blind.portlets⟩, inner_nil⟩
  | addResources resources =>
      unfold requestEffect
      rw [similar.host]
      exact mirrors_loaderEffect similar blind _
  | restoreLayout layout =>
      exact ⟨{ similar with layout := rfl }, rfl, ⟨blind.handlers, blind.portlets⟩,
        inner_nil⟩
  | callPortlet call => exact mirrors_portletEffect similar blind handled call
  | other notification => exact ⟨similar, rfl, blind, inner_nil⟩

theorem mirrors_handlerEffect (handled : Option String) {method : String}
    {handler : Handler} (found : client.handlers.find? method = some handler)
    (params : List Json.Value) :
    Mirrors omitted (client.handlerEffect handled handler params)
      (other.handlerEffect handled handler params) := by
  unfold handlerEffect
  cases handler with
  | custom program =>
      have given := blind.handlers _ _ found params
      exact ⟨similar, rfl, blind, inner_singleton given rfl⟩
  | standard method =>
      cases decoded : PortalRequest.ofNotification (.carrying method params) with
      | ok request =>
          simp only [decoded]
          exact mirrors_requestEffect similar blind handled request
      | error error =>
          simp only [decoded]
          exact ⟨similar.settleHandled _ _, rfl, blind.settleHandled _ _, inner_nil⟩

/-- Outside of the steps that look at the queue or at the flag, similar clients
do the same. -/
theorem mirrors_step {duty : Duty} (shown : duty.Blind) (calls : duty ≠ .dispatch)
    (drains : duty ≠ .drain) : Mirrors omitted (duty.step client) (duty.step other) := by
  cases duty with
  | dispatch => contradiction
  | drain => contradiction
  | finish notification => exact ⟨similar, rfl, blind, inner_singleton trivial rfl⟩
  | invoke notification =>
      cases found : client.handlers.find? notification.method with
      | none =>
          have sameFound := similar.handlers ▸ found
          simp only [Duty.step, found, sameFound]
          exact ⟨similar.report _, rfl, ⟨blind.handlers, blind.portlets⟩, inner_nil⟩
      | some handler =>
          have sameFound := similar.handlers ▸ found
          simp only [Duty.step, found, sameFound]
          exact mirrors_handlerEffect similar blind _ found _
  | run handled program =>
      cases program with
      | done outcome =>
          exact ⟨similar.settleHandled _ _, rfl, blind.settleHandled _ _, inner_nil⟩
      | look next =>
          obtain ⟨unseeing, given⟩ := shown
          have same : next other.snapshot = next client.snapshot := by
            rw [similar.snapshot, unseeing]
          have duties := congrArg (fun program => [Duty.run handled program]) same
          exact ⟨similar, duties, blind, inner_singleton (given client.snapshot) rfl⟩
      | perform command next =>
          obtain ⟨commandShown, given⟩ := shown
          have performed := mirrors_commandEffect similar blind commandShown
          exact performed.append (inner_singleton given rfl)
  | serve entries =>
      cases entries with
      | nil => exact ⟨similar, rfl, blind, inner_nil⟩
      | cons entry entries =>
          have applied := mirrors_entryEffect similar blind entry
          exact applied.append (inner_singleton trivial rfl)

theorem mirrors_dispatch
    (flag : other.inbox.dispatching = client.inbox.dispatching) :
    Mirrors omitted (Duty.step client .dispatch) (Duty.step other .dispatch) := by
  cases busy : client.inbox.dispatching with
  | true =>
      rw [step_dispatch_busy busy, step_dispatch_busy (flag.trans busy)]
      exact ⟨similar, rfl, blind, inner_nil⟩
  | false =>
      rw [step_dispatch_idle busy, step_dispatch_idle (flag.trans busy)]
      exact ⟨similar.flagged _ _, rfl, ⟨blind.handlers, blind.portlets⟩,
        inner_singleton trivial rfl⟩

theorem mirrors_receive (frame : String) :
    Mirrors (omitted ++ (Call.receive frame).brings.map fun _ => false)
      ((Call.receive frame).start client) ((Call.receive frame).start other) := by
  cases decoded : Notification.ofFrame frame with
  | error error =>
      simp only [Call.start, Call.brings, decoded, Except.toOption, Option.toList_none,
        List.map_nil, List.append_nil]
      exact ⟨similar.report _, rfl, ⟨blind.handlers, blind.portlets⟩, inner_nil⟩
  | ok notification =>
      simp only [Call.start, Call.brings, decoded, Except.toOption, Option.toList_some,
        List.map_singleton]
      exact ⟨similar.arrive notification, rfl, ⟨blind.handlers, blind.portlets⟩,
        inner_singleton trivial rfl⟩

theorem mirrors_start {call : Call} (shown : call.Blind)
    (silent : ∀ frame, call ≠ .receive frame) :
    Mirrors omitted (call.start client) (call.start other) := by
  cases call with
  | receive frame => exact absurd rfl (silent frame)
  | lock => exact ⟨similar.lock, rfl, ⟨blind.handlers, blind.portlets⟩, inner_nil⟩
  | unlock => exact mirrors_unlockEffect similar blind .page
  | link action =>
      exact ⟨similar.onLink (·.perform action), rfl, ⟨blind.handlers, blind.portlets⟩,
        inner_nil⟩
  | handle method program =>
      have registers : (Command.handle method program).Blind := shown
      exact mirrors_commandEffect similar blind registers
  | handlePortlet portletClass method program =>
      have registers : (Command.handlePortlet portletClass method program).Blind := shown
      exact mirrors_commandEffect similar blind registers
  | submit resources =>
      rw [Call.start, Call.start, similar.host]
      exact mirrors_loaderEffect similar blind _
  | completeLoad uri outcome =>
      rw [Call.start, Call.start, similar.host]
      exact mirrors_loaderEffect similar blind _
  | invokePortlet call => exact mirrors_portletEffect similar blind none call
  | invokeHandler method params =>
      cases found : client.handlers.find? method with
      | none =>
          have sameFound := similar.handlers ▸ found
          simp only [Call.start, found, sameFound]
          exact ⟨similar, rfl, blind, inner_nil⟩
      | some handler =>
          have sameFound := similar.handlers ▸ found
          simp only [Call.start, found, sameFound]
          exact mirrors_handlerEffect similar blind none found params

theorem mirrors_begin {call : Call} (shown : call.Blind) :
    Mirrors (omitted ++ call.brings.map fun _ => false) (call.start client)
      (call.start other) := by
  cases call with
  | receive frame => exact mirrors_receive similar blind frame
  | _ =>
      simp only [Call.brings, List.map_nil, List.append_nil]
      exact mirrors_start similar blind shown (by simp)

end Effects

end Client

end PageSession
