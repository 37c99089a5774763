import PageSession.Proofs.Client.Calls
import Mathlib.Logic.Relation

/-!
# Calls carried out one after the other

A call that nothing interferes with does in steps what the functions of the
client do at once.  Within a handler the functions of the client pass over every
request to handle the queue; in steps such a request looks at the flag, finds it
set and returns.
-/

open Relation

namespace PageSession.Client

/-- Duties carried out with nothing in between lead from one client to another. -/
inductive Unwinds : Client → List Duty → List Moment → Client → Prop
  | done (client : Client) : Unwinds client [] [] client
  | step {client result : Client} {duty : Duty} {rest : List Duty}
      {moments : List Moment}
      (remaining : Unwinds (duty.step client).client
        ((duty.step client).duties ++ rest) moments result) :
      Unwinds client (duty :: rest) ((duty.step client).moments ++ moments) result

theorem Unwinds.of_step {client result : Client} {duty : Duty} {rest : List Duty}
    {moments : List Moment} {effect : Effect} (known : duty.step client = effect)
    (remaining : Unwinds effect.client (effect.duties ++ rest) moments result) :
    Unwinds client (duty :: rest) (effect.moments ++ moments) result := by
  subst known
  exact .step remaining

theorem Unwinds.append {client middle result : Client} {first second : List Duty}
    {moments others : List Moment} (unwinds : Unwinds client first moments middle)
    (continues : Unwinds middle second others result) :
    Unwinds client (first ++ second) (moments ++ others) result := by
  induction unwinds with
  | done client => exact continues
  | step remaining induction =>
      have continued := induction continues
      rw [List.append_assoc] at continued
      rw [List.cons_append, List.append_assoc]
      exact .step continued

/-- Duties make of a client what is expected, and leave the flag as `busy` says.
While the queue is being handled they leave it to that. -/
structure Carries (busy : Bool) (client : Client) (duties : List Duty)
    (result : Client) :
    Prop where
  unwinds : ∃ moments, Unwinds client duties moments result
  flag : result.inbox.dispatching = busy
  queue : busy = true → result.inbox.queue = client.inbox.queue

namespace Carries

variable {busy : Bool} {client middle result : Client}

theorem refl (flag : client.inbox.dispatching = busy) :
    Carries busy client [] client where
  unwinds := ⟨[], .done client⟩
  flag := flag
  queue := fun _ => rfl

theorem append {first second : List Duty} (carries : Carries busy client first middle)
    (continues : Carries busy middle second result) :
    Carries busy client (first ++ second) result := by
  obtain ⟨moments, unwinds⟩ := carries.unwinds
  obtain ⟨others, continued⟩ := continues.unwinds
  exact
    { unwinds := ⟨_, unwinds.append continued⟩
      flag := continues.flag
      queue := fun held => (continues.queue held).trans (carries.queue held) }

theorem step {duty : Duty}
    (continues :
      Carries busy (duty.step client).client (duty.step client).duties result)
    (queue : busy = true → (duty.step client).client.inbox.queue = client.inbox.queue) :
    Carries busy client [duty] result := by
  obtain ⟨moments, unwinds⟩ := continues.unwinds
  rw [← List.append_nil (duty.step client).duties] at unwinds
  exact
    { unwinds := ⟨_, .step unwinds⟩
      flag := continues.flag
      queue := fun held => (continues.queue held).trans (queue held) }

end Carries

/-- While nothing handles the queue, `drain` does what the duty to handle it
does. -/
def Serves (busy : Bool) (drain : Client → Client) : Prop :=
  busy = false → ∀ client : Client, client.inbox.dispatching = false →
    Carries false client [.dispatch] (drain client)

theorem serves_id : Serves true id := by
  intro idle
  contradiction

variable {busy : Bool} {drain : Client → Client} {client : Client}

/-- The last unlock, and only while nothing handles the queue, starts to. -/
theorem unlockThen_eq (drain : Client → Client) (client : Client) :
    client.unlockThen drain =
      if client.inbox.locks = 1 ∧ client.inbox.dispatching = false then
        drain (client.unlockThen id)
      else client.unlockThen id := by
  unfold unlockThen
  cases client.inbox.locks with
  | zero => simp
  | succ locks =>
      by_cases last : locks = 0
      · cases flag : client.inbox.dispatching <;> simp [last, flag]
      · simp [last]

theorem carries_unlockEffect (serves : Serves busy drain)
    (flag : client.inbox.dispatching = busy) (party : Party) :
    Carries busy (client.unlockEffect party).client (client.unlockEffect party).duties
      (client.unlockThen drain) := by
  have unlocked : (client.unlockThen id).inbox.dispatching = busy := by simpa using flag
  rw [unlockThen_eq]
  unfold unlockEffect
  by_cases last : client.inbox.locks = 1
  case neg =>
    simp only [last, if_false, false_and]
    exact .refl unlocked
  case pos =>
    cases busy with
    | true =>
        -- The loop that is going on further up will see that no lock is left.
        simp only [last, flag, if_true]
        apply Carries.step
        · rw [step_dispatch_busy unlocked]
          exact .refl unlocked
        · rw [step_dispatch_busy unlocked]
          exact fun _ => rfl
    | false =>
        simp only [last, flag, if_true, and_self]
        exact serves rfl _ unlocked

theorem carries_commandEffect (serves : Serves busy drain)
    (flag : client.inbox.dispatching = busy) (command : Command) :
    Carries busy (client.commandEffect command).client
      (client.commandEffect command).duties (client.perform drain command) := by
  cases command with
  | unlock => exact carries_unlockEffect serves flag .page
  | _ => exact .refl flag

theorem queue_unlockEffect (client : Client) (party : Party) :
    (client.unlockEffect party).client.inbox.queue = client.inbox.queue := by
  simp [unlockEffect]

theorem queue_commandEffect (client : Client) (command : Command) :
    (client.commandEffect command).client.inbox.queue = client.inbox.queue := by
  cases command with
  | unlock => exact queue_unlockEffect client .page
  | _ => rfl

/-- A program does the same at once and in steps. -/
theorem carries_run (serves : Serves busy drain) (handled : Option String) :
    (program : Program) → (client : Client) → client.inbox.dispatching = busy →
      Carries busy client [.run handled program]
        ((client.runProgram drain program).1.settleHandled handled
          (client.runProgram drain program).2)
  | .done outcome, client, flag => by
      apply Carries.step
      · exact .refl (by simpa [Duty.step] using flag)
      · simp [Duty.step]
  | .look next, client, flag => by
      apply Carries.step
      · exact carries_run serves handled (next client.snapshot) client flag
      · exact fun _ => rfl
  | .perform command next, client, flag => by
      have performed := carries_commandEffect serves flag command
      have continued := carries_run serves handled next _ performed.flag
      apply Carries.step
      · exact performed.append continued
      · exact fun _ => queue_commandEffect client command

theorem carries_entryEffect (serves : Serves busy drain)
    (flag : client.inbox.dispatching = busy) (entry : Loader.Report) :
    Carries busy (client.entryEffect entry).client (client.entryEffect entry).duties
      (client.applyLoader drain entry) := by
  cases entry with
  | unlock =>
      have reported : (client.report (.loader .unlock)).inbox.dispatching = busy := flag
      exact carries_unlockEffect serves reported .loader
  | _ => exact .refl flag

theorem queue_entryEffect (client : Client) (entry : Loader.Report) :
    (client.entryEffect entry).client.inbox.queue = client.inbox.queue := by
  cases entry with
  | unlock => exact queue_unlockEffect _ .loader
  | _ => rfl

theorem carries_serve (serves : Serves busy drain) (entries : List Loader.Report)
    {client : Client} (flag : client.inbox.dispatching = busy) :
    Carries busy client [.serve entries]
      (entries.foldl (applyLoader drain) client) := by
  induction entries generalizing client with
  | nil =>
      apply Carries.step
      · exact .refl flag
      · exact fun _ => rfl
  | cons entry entries induction =>
      have applied := carries_entryEffect serves flag entry
      apply Carries.step
      · exact applied.append (induction applied.flag)
      · exact fun _ => queue_entryEffect client entry

theorem carries_loaderEffect (serves : Serves busy drain)
    (flag : client.inbox.dispatching = busy) (change : Loader → Loader) :
    Carries busy (client.loaderEffect change).client
      (client.loaderEffect change).duties (client.onLoader drain change) :=
  carries_serve serves _ flag

theorem carries_portletEffect (serves : Serves busy drain)
    (flag : client.inbox.dispatching = busy) (handled : Option String)
    (call : PortletCall) :
    Carries busy (client.portletEffect handled call).client
      (client.portletEffect handled call).duties
      ((client.callPortlet drain call).1.settleHandled handled
        (client.callPortlet drain call).2) := by
  unfold portletEffect callPortlet
  cases client.portlets.find? (call.portletClass, call.method) with
  | none => cases handled <;> exact .refl flag
  | some program => exact carries_run serves handled _ _ flag

theorem carries_requestEffect (serves : Serves busy drain)
    (flag : client.inbox.dispatching = busy) (handled : Option String)
    (request : PortalRequest) :
    Carries busy (client.requestEffect handled request).client
      (client.requestEffect handled request).duties
      ((client.answer drain request).1.settleHandled handled
        (client.answer drain request).2) := by
  cases request with
  | addResources resources =>
      have submitted := carries_loaderEffect serves flag
        fun loader => loader.submit client.host resources
      cases handled <;> exact submitted
  | callPortlet call => exact carries_portletEffect serves flag handled call
  | _ => cases handled <;> exact .refl flag

theorem carries_handlerEffect (serves : Serves busy drain)
    (flag : client.inbox.dispatching = busy) (handled : Option String)
    (handler : Handler) (params : List Json.Value) :
    Carries busy (client.handlerEffect handled handler params).client
      (client.handlerEffect handled handler params).duties
      ((client.runHandler drain handler params).1.settleHandled handled
        (client.runHandler drain handler params).2) := by
  unfold handlerEffect runHandler
  cases handler with
  | custom program => exact carries_run serves handled _ _ flag
  | standard method =>
      cases decoded : PortalRequest.ofNotification (.carrying method params) with
      | ok request =>
          simp only [decoded]
          exact carries_requestEffect serves flag handled request
      | error error =>
          simp only [decoded]
          exact .refl (by simpa using flag)

theorem queue_handlerEffect (client : Client) (handled : Option String)
    (handler : Handler) (params : List Json.Value) :
    (client.handlerEffect handled handler params).client.inbox.queue
      = client.inbox.queue := by
  unfold handlerEffect
  cases handler with
  | custom program => rfl
  | standard method =>
      cases decoded : PortalRequest.ofNotification (.carrying method params) with
      | error error => simp [decoded]
      | ok request =>
          simp only [decoded]
          cases request with
          | callPortlet call =>
              simp only [requestEffect, portletEffect]
              split <;> rfl
          | _ => rfl

/-! ## The loop over the queue -/

/-- The client once a notification that was taken has been handled. -/
def handled (client : Client) (notification : Notification) : Client :=
  match client.handlers.find? notification.method with
  | none => client.report (.incident (.unhandled notification.method))
  | some handler =>
      let (client, outcome) := client.runHandler id handler notification.arguments
      client.settleOutcome notification.method outcome

theorem carries_invoke (flag : client.inbox.dispatching = true)
    (notification : Notification) :
    Carries true client [.invoke notification] (client.handled notification) := by
  unfold handled
  cases found : client.handlers.find? notification.method with
  | none =>
      apply Carries.step <;> simp only [Duty.step, found]
      · exact .refl flag
      · exact fun _ => rfl
  | some handler =>
      apply Carries.step <;> simp only [Duty.step, found]
      · exact carries_handlerEffect serves_id flag _ handler _
      · exact fun _ => queue_handlerEffect client _ handler _

theorem unwinds_drain (queue : List Notification) {client : Client}
    (flag : client.inbox.dispatching = true) (waiting : client.inbox.queue = queue) :
    ∃ moments, Unwinds client [.drain] moments (client.drainQueue queue) := by
  induction queue generalizing client with
  | nil => exact ⟨_, .of_step (step_drain_empty waiting) (.done _)⟩
  | cons notification rest induction =>
      unfold drainQueue
      split
      case isFalse locked =>
        exact ⟨_, .of_step (step_drain_locked locked) (.done _)⟩
      case isTrue unlocked =>
        have taken : (client.taking notification rest).inbox.dispatching = true := flag
        have invoked := carries_invoke taken notification
        obtain ⟨moments, unwinds⟩ := invoked.unwinds
        -- Nothing that a handler does takes from the queue.
        have left :
            ((client.taking notification rest).handled notification).inbox.queue
              = rest :=
          invoked.queue rfl
        obtain ⟨others, continues⟩ := induction invoked.flag left
        exact ⟨_, .of_step (step_drain_take unlocked waiting)
          (unwinds.append (.step continues))⟩

theorem flag_drainQueue (queue : List Notification) (client : Client) :
    (client.drainQueue queue).inbox.dispatching = false := by
  induction queue generalizing client with
  | nil => rfl
  | cons notification rest induction =>
      unfold drainQueue
      split
      · exact induction _
      · rfl

theorem serves_dispatch : Serves false dispatch := by
  intro _ client idle
  obtain ⟨moments, unwinds⟩ :=
    @unwinds_drain client.inbox.queue (client.flagged true) rfl rfl
  have same :
      client.dispatch = (client.flagged true).drainQueue client.inbox.queue := by
    simp [dispatch, idle, flagged]
  rw [same]
  exact
    { unwinds := ⟨_, .of_step (step_dispatch_idle idle) unwinds⟩
      flag := flag_drainQueue _ _
      queue := fun held => by contradiction }

/-! ## Calls -/

/-- What a call makes of a client while nothing else goes on. -/
def Call.result (client : Client) : Call → Client
  | .receive frame => client.receive frame
  | .lock => client.lock
  | .unlock => client.unlock
  | .link action => client.onLink (·.perform action)
  | .handle method program => client.handle method (.custom program)
  | .handlePortlet portletClass method program =>
      client.handlePortlet portletClass method program
  | .submit resources => client.submit resources
  | .completeLoad uri outcome => client.completeLoad uri outcome
  | .invokePortlet call => (client.invokePortlet call).1
  | .invokeHandler method params => (client.invokeHandler method params).1

/-- A call does the same at once and in steps. -/
theorem carries_call {client : Client} (idle : client.inbox.dispatching = false)
    (call : Call) :
    Carries false (call.start client).client (call.start client).duties
      (call.result client) := by
  cases call with
  | receive frame =>
      cases decoded : Notification.ofFrame frame with
      | error error =>
          simp only [Call.start, Call.result, receive, decoded]
          exact .refl idle
      | ok notification =>
          simp only [Call.start, Call.result, receive, decoded]
          exact serves_dispatch rfl _ idle
  | unlock => exact carries_unlockEffect serves_dispatch idle .page
  | submit resources =>
      exact carries_loaderEffect serves_dispatch idle
        fun loader => loader.submit client.host resources
  | completeLoad uri outcome =>
      exact carries_loaderEffect serves_dispatch idle
        fun loader => loader.complete client.host uri outcome
  | invokePortlet call => exact carries_portletEffect serves_dispatch idle none call
  | invokeHandler method params =>
      cases found : client.handlers.find? method with
      | none =>
          simp only [Call.start, Call.result, invokeHandler, found]
          exact .refl idle
      | some handler =>
          simp only [Call.start, Call.result, invokeHandler, found]
          exact carries_handlerEffect serves_dispatch idle none handler params
  | _ => exact .refl idle

namespace Activity

theorem reaches_unwinds {client result : Client} {duties : List Duty}
    {moments : List Moment} (unwinds : Unwinds client duties moments result)
    (before after : List (List Duty)) (history : List Moment) :
    ReflTransGen Activity.Step { client, calls := before ++ duties :: after, history }
      { client := result, calls := before ++ [] :: after,
        history := history ++ moments } := by
  induction unwinds generalizing history with
  | done client => rw [List.append_nil]
  | @step client _ duty rest _ remaining induction =>
      have continued := induction (history ++ (duty.step client).moments)
      rw [List.append_assoc] at continued
      exact continued.head (.proceed rfl)

/-- Calls made one after the other, each to its end, do what the functions of
the client do. -/
theorem reaches_calls (calls : List Call) {activity : Activity}
    (idle : activity.client.inbox.dispatching = false) (ended : activity.duties = []) :
    ∃ other : Activity, ReflTransGen Activity.Step activity other ∧ other.duties = [] ∧
      other.client = calls.foldl Call.result activity.client := by
  induction calls generalizing activity with
  | nil => exact ⟨activity, .refl, ended, rfl⟩
  | cons call calls induction =>
      have carries := carries_call idle call
      obtain ⟨moments, unwinds⟩ := carries.unwinds
      have called := reaches_unwinds unwinds activity.calls []
        (activity.history ++ (call.start activity.client).moments)
      have endedNow : (activity.calls ++ [[]]).flatten = [] := by
        simpa [duties] using ended
      obtain ⟨other, reaches, endedAgain, same⟩ := @induction
        { client := call.result activity.client
          calls := activity.calls ++ [[]]
          history := _ }
        carries.flag endedNow
      refine ⟨other, ?_, endedAgain, same⟩
      exact (called.trans reaches).head (.begin call)

end Activity

end PageSession.Client
