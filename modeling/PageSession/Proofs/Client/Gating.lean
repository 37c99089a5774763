import PageSession.Proofs.Client.Dispatch
import PageSession.Proofs.Script.Backpressure
import PageSession.Proofs.Script.Waiting

/-!
# Page resources gate the notifications

Here each call is carried out to its end before the next one begins, so that an
announcement, the end of a load and the arrival of a frame are one step each.
If the page never takes back more locks than it took, no handler of a
notification starts while the loader has anything going on, and no notification
is left behind once nothing is loading and the page holds no lock.

The invariant accounts for the lock of the loader.  Within a step the loader
has decided already to hold its lock or not, and the duty to serve it is about
to act on that; otherwise the lock is held exactly while something is loading.
-/

open Relation

namespace PageSession.Client

/-! ## Calls one at a time -/

/-- Whether a call can come: only loads that are going on come to their end. -/
def Call.Possible (client : Client) : Call → Prop
  | .completeLoad uri _ => uri ∈ client.loader.uris
  | _ => True

/-- A client, what is left to do in the call in progress, and what happened. -/
structure Course where
  client : Client
  duties : List Duty := []
  history : List Moment := []

namespace Course

/-- A call begins when none is in progress, or the one in progress goes on. -/
inductive Step (course : Course) : Course → Prop
  | begin {call : Call} (ended : course.duties = [])
      (possible : call.Possible course.client) :
      Step course
        { client := (call.start course.client).client
          duties := (call.start course.client).duties
          history := course.history ++ (call.start course.client).moments }
  | proceed {duty : Duty} {rest : List Duty} (next : course.duties = duty :: rest) :
      Step course
        { client := (duty.step course.client).client
          duties := (duty.step course.client).duties ++ rest
          history := course.history ++ (duty.step course.client).moments }

end Course

def Moment.released? : Moment → Option Party
  | .unlocked party | .ignored party => some party
  | _ => none

def releases (history : List Moment) : List Party :=
  history.filterMap Moment.released?

/-- At no time has the page tried to take back more locks than it took. -/
def Courteous (history : List Moment) : Prop :=
  ∀ before after, history = before ++ after →
    (releases before).count .page ≤ (lockings before).count .page

theorem releases_append (history moments : List Moment) :
    releases (history ++ moments) = releases history ++ releases moments :=
  List.filterMap_append

theorem Courteous.of_append {history moments : List Moment}
    (courteous : Courteous (history ++ moments)) : Courteous history := by
  intro before after same
  apply courteous before (after ++ moments)
  rw [same, List.append_assoc]

theorem courteous_of_releases_eq_nil {history : List Moment}
    (none : releases history = []) : Courteous history := by
  intro before after same
  rw [same, releases_append, List.append_eq_nil_iff] at none
  rw [none.1]
  exact Nat.zero_le _

theorem length_eq_count_add_count (parties : List Party) :
    parties.length = parties.count .page + parties.count .loader := by
  induction parties with
  | nil => rfl
  | cons party parties induction =>
      cases party <;> simp [induction] <;> omega

/-! ## The lock of the loader -/

/-- What a duty has still to do about the lock of the loader. -/
def Duty.gates : Duty → List Bool
  | .serve entries => Loader.gates entries
  | _ => []

/-- Whether a duty starts the handler of a notification. -/
def Duty.enters : Duty → Bool
  | .invoke _ => true
  | _ => false

/-- Duties that have nothing to do about the lock of the loader and start no
handler. -/
def Plain (duties : List Duty) : Prop :=
  ∀ duty ∈ duties, duty.gates = [] ∧ duty.enters = false

/-- What holds of the loader of a client, and of the locks it took. -/
structure Ledger (client : Client) (history : List Moment) (held : Bool) : Prop where
  backed : client.loader.Backed
  cleared : client.loader.journal = []
  tracks : ∃ scripts, client.loader.resolver.Tracks scripts
  obeyed : releases history = unlockings history
  balance : (lockings history).count .loader
    = (unlockings history).count .loader + held.toNat

/-- What holds between the steps of a course. -/
structure Gated (client : Client) (duties : List Duty) (history : List Moment) :
    Prop where
  entered : ∀ notification rest, duties = .invoke notification :: rest →
    client.inbox.locks = 0
  rest : Plain duties.tail
  ledger : ∃ held, Ledger client history held ∧
    duties.flatMap Duty.gates = Loader.turn held client.loader.holding

theorem flatMap_gates_of_plain {duties : List Duty} (plain : Plain duties) :
    duties.flatMap Duty.gates = [] := by
  rw [List.flatMap_eq_nil_iff]
  exact fun duty member => (plain duty member).1

theorem Plain.append {duties others : List Duty} (plain : Plain duties)
    (otherPlain : Plain others) : Plain (duties ++ others) := by
  intro duty member
  rcases List.mem_append.mp member with member | member
  · exact plain duty member
  · exact otherPlain duty member

theorem gated_of_plain {client : Client} {duties : List Duty} {history : List Moment}
    (ledger : Ledger client history client.loader.holding) (plain : Plain duties) :
    Gated client duties history where
  entered := by
    intro notification rest same
    have enters := (plain (.invoke notification) (by simp [same])).2
    contradiction
  rest := fun duty member => plain duty (List.mem_of_mem_tail member)
  ledger := ⟨_, ledger, by rw [flatMap_gates_of_plain plain, Loader.turn, if_pos rfl]⟩

namespace Gated

variable {client : Client} {duty : Duty} {duties rest : List Duty}
  {history : List Moment}

/-- A first duty that does nothing about the lock can be left out of account. -/
theorem settled (gated : Gated client (duty :: rest) history)
    (silent : duty.gates = []) :
    Ledger client history client.loader.holding ∧ Plain rest := by
  obtain ⟨held, ledger, gates⟩ := gated.ledger
  have plain : Plain rest := gated.rest
  rw [List.flatMap_cons, silent, flatMap_gates_of_plain plain] at gates
  have same : held = client.loader.holding := Loader.eq_of_turn_eq_nil gates.symm
  exact ⟨same ▸ ledger, plain⟩

end Gated

/-! ## Effects that leave the loader alone -/

/-- An effect that leaves the loader alone and takes no lock for it.  If it
unlocks, then for the page, and finds a lock or is ignored. -/
structure Passive (client : Client) (effect : Effect) : Prop where
  loader : effect.client.loader = client.loader
  plain : Plain effect.duties
  takesNone : (lockings effect.moments).count .loader = 0
  returnsNone : (unlockings effect.moments).count .loader = 0
  obeys : releases effect.moments = unlockings effect.moments ∨
    client.inbox.locks = 0 ∧ effect.moments = [.ignored .page]

theorem plain_nil : Plain [] := by
  intro duty member
  contradiction

theorem plain_singleton {duty : Duty} (silent : duty.gates = [])
    (stays : duty.enters = false) : Plain [duty] := by
  intro other member
  rw [List.mem_singleton.mp member]
  exact ⟨silent, stays⟩

theorem passive_quiet {client : Client} {effect : Effect}
    (loader : effect.client.loader = client.loader) (plain : Plain effect.duties)
    (unseen : effect.moments = []) : Passive client effect where
  loader := loader
  plain := plain
  takesNone := by simp [unseen]
  returnsNone := by simp [unseen]
  obeys := .inl (by simp [unseen, releases])

@[simp] theorem loader_unlockThen_id (client : Client) :
    (client.unlockThen id).loader = client.loader := by
  unfold unlockThen
  split
  · rfl
  · simp

@[simp] theorem loader_settleHandled (client : Client) (handled : Option String)
    (outcome : Outcome) :
    (client.settleHandled handled outcome).loader = client.loader := by
  cases handled <;> cases outcome <;> rfl

section Effects

variable (client : Client) (handled : Option String)

theorem plain_unlockEffect (party : Party) :
    Plain (client.unlockEffect party).duties := by
  unfold unlockEffect
  split
  · exact plain_singleton rfl rfl
  · exact plain_nil

theorem passive_lock :
    Passive client { client := client.lock, moments := [.locked .page] } where
  loader := rfl
  plain := plain_nil
  takesNone := rfl
  returnsNone := rfl
  obeys := .inl rfl

theorem passive_unlockEffect : Passive client (client.unlockEffect .page) where
  loader := by simp [unlockEffect]
  plain := plain_unlockEffect client .page
  takesNone := by
    by_cases none : client.inbox.locks = 0 <;> simp [unlockEffect, none]
  returnsNone := by
    by_cases none : client.inbox.locks = 0 <;> simp [unlockEffect, none]
  obeys := by
    by_cases none : client.inbox.locks = 0
    · exact .inr ⟨none, by simp [unlockEffect, none]⟩
    · exact .inl (by simp [unlockEffect, none, releases, Moment.released?])

theorem passive_commandEffect (command : Command) :
    Passive client (client.commandEffect command) := by
  cases command with
  | lock => exact passive_lock client
  | unlock => exact passive_unlockEffect client
  | _ => exact passive_quiet rfl plain_nil rfl

theorem passive_portletEffect (call : PortletCall) :
    Passive client (client.portletEffect handled call) := by
  unfold portletEffect
  split
  · exact passive_quiet rfl plain_nil rfl
  · exact passive_quiet rfl (plain_singleton rfl rfl) rfl

/-- A handler begins with a submission to the loader, or leaves it alone. -/
theorem handlerEffect_cases (handler : Handler) (params : List Json.Value) :
    (∃ resources, client.handlerEffect handled handler params
      = client.loaderEffect fun loader => loader.submit client.host resources) ∨
    Passive client (client.handlerEffect handled handler params) := by
  cases handler with
  | custom program => exact .inr (passive_quiet rfl (plain_singleton rfl rfl) rfl)
  | standard method =>
      unfold handlerEffect
      cases decoded : PortalRequest.ofNotification (.carrying method params) with
      | error error =>
          simp only [decoded]
          exact .inr (passive_quiet (by simp) plain_nil rfl)
      | ok request =>
          simp only [decoded]
          cases request with
          | addResources resources => exact .inl ⟨resources, rfl⟩
          | callPortlet call => exact .inr (passive_portletEffect client handled call)
          | _ => exact .inr (passive_quiet rfl plain_nil rfl)

end Effects

/-! ## Steps -/

section Steps

variable {client : Client} {rest : List Duty} {history : List Moment}

theorem gated_loaderEffect {change : Loader → Loader}
    (ledger : Ledger client history client.loader.holding) (plain : Plain rest)
    (turns : Loader.Turns client.loader (change client.loader))
    (tracks : ∃ scripts, (change client.loader).resolver.Tracks scripts) :
    Gated (client.loaderEffect change).client
      ((client.loaderEffect change).duties ++ rest)
      (history ++ (client.loaderEffect change).moments) where
  entered := by
    intro notification rest same
    simp [loaderEffect] at same
  rest := plain
  ledger := by
    refine ⟨client.loader.holding, ?_, ?_⟩
    · exact
        { backed := turns.backed
          cleared := rfl
          tracks := tracks
          obeyed := by simpa [loaderEffect] using ledger.obeyed
          balance := by simpa [loaderEffect] using ledger.balance }
    · have gates := turns.gates
      rw [ledger.cleared] at gates
      rw [List.flatMap_append, flatMap_gates_of_plain plain, List.append_nil]
      exact (List.flatMap_singleton _ _).trans gates

/-- The loader is served with an entry that does nothing about the lock. -/
theorem gated_silent {entry : Loader.Report} {entries : List Loader.Report}
    (gated : Gated client (.serve (entry :: entries) :: rest) history)
    (silent : entry.gate? = none) :
    Gated (client.report (.loader entry)) (.serve entries :: rest) history where
  entered := by
    intro notification others same
    simp at same
  rest := gated.rest
  ledger := by
    obtain ⟨held, ledger, gates⟩ := gated.ledger
    refine ⟨held, ⟨ledger.backed, ledger.cleared, ledger.tracks, ledger.obeyed,
      ledger.balance⟩, ?_⟩
    have same : Loader.gates (entry :: entries) = Loader.gates entries := by
      rw [Loader.gates, List.filterMap_cons_none silent]
      rfl
    rw [List.flatMap_cons, Duty.gates] at gates ⊢
    exact same ▸ gates

/-- The lock of the loader is taken or given back: then nothing about it is left
to do. -/
theorem gated_gate {entry : Loader.Report} {entries : List Loader.Report} {taken : Bool}
    (gated : Gated client (.serve (entry :: entries) :: rest) history)
    (gate : entry.gate? = some taken) :
    Ledger client history (!taken) ∧ client.loader.holding = taken ∧
      Plain (.serve entries :: rest) := by
  obtain ⟨held, ledger, gates⟩ := gated.ledger
  have plain : Plain rest := gated.rest
  have first : Loader.gates (entry :: entries) = taken :: Loader.gates entries := by
    rw [Loader.gates, List.filterMap_cons_some gate]
    rfl
  rw [List.flatMap_cons, flatMap_gates_of_plain plain, List.append_nil, Duty.gates,
    first] at gates
  obtain ⟨before, after, none⟩ : held = !taken ∧ client.loader.holding = taken ∧
      Loader.gates entries = [] := by
    cases held <;> cases flag : client.loader.holding <;> simp_all [Loader.turn]
  have served : Plain [.serve entries] := plain_singleton none rfl
  exact ⟨before ▸ ledger, after, served.append plain⟩

theorem gated_submit (ledger : Ledger client history client.loader.holding)
    (plain : Plain rest) (resources : PageResources) :
    let effect := client.loaderEffect fun loader => loader.submit client.host resources
    Gated effect.client (effect.duties ++ rest) (history ++ effect.moments) := by
  obtain ⟨scripts, tracks⟩ := ledger.tracks
  exact gated_loaderEffect ledger plain
    (Loader.turns_submit ledger.backed client.host resources)
    ⟨_, Loader.tracks_submit tracks client.host resources⟩

variable (balanced : (lockings history).length
  = client.inbox.locks + (unlockings history).length)
include balanced

/-- A courteous page is never found to hold no lock when it takes one back. -/
theorem not_courteous_ignored {held : Bool} (ledger : Ledger client history held)
    (unlocked : client.inbox.locks = 0) :
    ¬ Courteous (history ++ [.ignored .page]) := by
  intro courteous
  have bound := courteous _ [] (List.append_nil _).symm
  have balance := ledger.balance
  rw [length_eq_count_add_count, length_eq_count_add_count] at balanced
  rw [releases_append, ledger.obeyed, lockings_append] at bound
  simp [releases, Moment.released?] at bound
  omega

/-- While the lock of the loader is held, the count of locks is not zero. -/
theorem locks_ne_zero (ledger : Ledger client history true)
    (courteous : Courteous history) : client.inbox.locks ≠ 0 := by
  have bound := courteous history [] (List.append_nil _).symm
  have balance := ledger.balance
  rw [length_eq_count_add_count, length_eq_count_add_count] at balanced
  rw [ledger.obeyed] at bound
  rw [Bool.toNat_true] at balance
  omega

theorem gated_passive {effect : Effect}
    (ledger : Ledger client history client.loader.holding) (plain : Plain rest)
    (passive : Passive client effect)
    (courteous : Courteous (history ++ effect.moments)) :
    Gated effect.client (effect.duties ++ rest) (history ++ effect.moments) := by
  have obeys : releases effect.moments = unlockings effect.moments := by
    rcases passive.obeys with obeys | ⟨unlocked, ignored⟩
    · exact obeys
    · rw [ignored] at courteous
      exact absurd courteous (not_courteous_ignored balanced ledger unlocked)
  apply gated_of_plain _ (passive.plain.append plain)
  rw [passive.loader]
  exact
    { backed := passive.loader ▸ ledger.backed
      cleared := passive.loader ▸ ledger.cleared
      tracks := passive.loader ▸ ledger.tracks
      obeyed := by rw [releases_append, unlockings_append, ledger.obeyed, obeys]
      balance := by
        rw [lockings_append, unlockings_append, List.count_append, List.count_append,
          passive.takesNone, passive.returnsNone]
        exact ledger.balance }

theorem gated_entryEffect {entry : Loader.Report} {entries : List Loader.Report}
    (gated : Gated client (.serve (entry :: entries) :: rest) history)
    (courteous : Courteous history) :
    Gated (client.entryEffect entry).client
      (((client.entryEffect entry).duties ++ [.serve entries]) ++ rest)
      (history ++ (client.entryEffect entry).moments) := by
  cases entry with
  | lock =>
      obtain ⟨ledger, holding, plain⟩ := gated_gate gated rfl
      have balance := ledger.balance
      rw [Bool.not_true, Bool.toNat_false] at balance
      refine gated_of_plain ?_ plain
      refine ⟨ledger.backed, ledger.cleared, ledger.tracks, ?_, ?_⟩
      · rw [releases_append, unlockings_append, ledger.obeyed]
        rfl
      · have held : (client.entryEffect .lock).client.loader.holding = true := holding
        rw [held]
        simp [entryEffect, balance]
  | unlock =>
      obtain ⟨ledger, holding, plain⟩ := gated_gate gated rfl
      have locked := locks_ne_zero balanced ledger courteous
      have balance := ledger.balance
      rw [Bool.not_false, Bool.toNat_true] at balance
      have moments : (client.entryEffect .unlock).moments = [.unlocked .loader] := by
        simp [entryEffect, unlockEffect, locked]
      have loader : (client.entryEffect .unlock).client.loader = client.loader := by
        simp [entryEffect, unlockEffect, report]
      rw [moments, List.append_assoc]
      refine gated_of_plain ?_ ((plain_unlockEffect _ .loader).append plain)
      refine ⟨loader ▸ ledger.backed, loader ▸ ledger.cleared, loader ▸ ledger.tracks,
        ?_, ?_⟩
      · rw [releases_append, unlockings_append, ledger.obeyed]
        rfl
      · rw [loader, holding]
        simp [balance]
  | _ =>
      have served := gated_silent gated rfl
      rw [← List.append_nil history] at served
      exact served

theorem gated_handlerEffect (ledger : Ledger client history client.loader.holding)
    (plain : Plain rest) (handled : Option String) (handler : Handler)
    (params : List Json.Value)
    (courteous :
      Courteous (history ++ (client.handlerEffect handled handler params).moments)) :
    Gated (client.handlerEffect handled handler params).client
      ((client.handlerEffect handled handler params).duties ++ rest)
      (history ++ (client.handlerEffect handled handler params).moments) := by
  rcases handlerEffect_cases client handled handler params with
    ⟨resources, submits⟩ | passive
  · rw [submits]
    exact gated_submit ledger plain resources
  · exact gated_passive balanced ledger plain passive courteous

/-- The loop over the queue takes a notification only while no lock is held. -/
theorem gated_drain (ledger : Ledger client history client.loader.holding)
    (plain : Plain rest)
    (courteous : Courteous (history ++ (Duty.step client .drain).moments)) :
    Gated (Duty.step client .drain).client ((Duty.step client .drain).duties ++ rest)
      (history ++ (Duty.step client .drain).moments) := by
  by_cases unlocked : client.inbox.locks = 0
  case neg =>
    have stops : Passive client (Duty.step client .drain) := by
      rw [step_drain_locked unlocked]
      exact passive_quiet rfl plain_nil rfl
    exact gated_passive balanced ledger plain stops courteous
  case pos =>
    cases waiting : client.inbox.queue with
    | nil =>
        have stops : Passive client (Duty.step client .drain) := by
          rw [step_drain_empty waiting]
          exact passive_quiet rfl plain_nil rfl
        exact gated_passive balanced ledger plain stops courteous
    | cons notification others =>
        have finish : Plain [.finish notification] := plain_singleton rfl rfl
        have left : Plain (.finish notification :: rest) := finish.append plain
        rw [step_drain_take unlocked waiting]
        exact
          { entered := fun _ _ _ => unlocked
            rest := left
            ledger := by
              refine ⟨client.loader.holding, ?_, ?_⟩
              · refine ⟨ledger.backed, ledger.cleared, ledger.tracks, ?_, ?_⟩
                · rw [releases_append, unlockings_append, ledger.obeyed]
                  rfl
                · rw [lockings_append, unlockings_append]
                  simpa using ledger.balance
              · rw [List.cons_append, List.flatMap_cons, List.singleton_append,
                  flatMap_gates_of_plain left]
                simp [Duty.gates, Loader.turn, taking, report] }

theorem Gated.step {duty : Duty} (gated : Gated client (duty :: rest) history)
    (courteous : Courteous (history ++ (duty.step client).moments)) :
    Gated (duty.step client).client ((duty.step client).duties ++ rest)
      (history ++ (duty.step client).moments) := by
  cases duty with
  | dispatch =>
      obtain ⟨ledger, plain⟩ := gated.settled rfl
      refine gated_passive balanced ledger plain ?_ courteous
      cases flag : client.inbox.dispatching with
      | true =>
          rw [step_dispatch_busy flag]
          exact passive_quiet rfl plain_nil rfl
      | false =>
          rw [step_dispatch_idle flag]
          exact passive_quiet rfl (plain_singleton rfl rfl) rfl
  | drain =>
      obtain ⟨ledger, plain⟩ := gated.settled rfl
      exact gated_drain balanced ledger plain courteous
  | invoke notification =>
      obtain ⟨ledger, plain⟩ := gated.settled rfl
      cases found : client.handlers.find? notification.method with
      | none =>
          refine gated_passive balanced ledger plain ?_ courteous
          simp only [Duty.step, found]
          exact passive_quiet rfl plain_nil rfl
      | some handler =>
          simp only [Duty.step, found] at courteous ⊢
          exact gated_handlerEffect balanced ledger plain _ handler _ courteous
  | finish notification =>
      obtain ⟨ledger, plain⟩ := gated.settled rfl
      exact gated_passive balanced ledger plain
        ⟨rfl, plain_singleton rfl rfl, rfl, rfl, .inl rfl⟩ courteous
  | run handled program =>
      obtain ⟨ledger, plain⟩ := gated.settled rfl
      refine gated_passive balanced ledger plain ?_ courteous
      cases program with
      | done outcome => exact passive_quiet (by simp [Duty.step]) plain_nil rfl
      | look next => exact passive_quiet rfl (plain_singleton rfl rfl) rfl
      | perform command next =>
          have passive := passive_commandEffect client command
          exact { passive with plain := passive.plain.append (plain_singleton rfl rfl) }
  | serve entries =>
      cases entries with
      | nil =>
          obtain ⟨ledger, plain⟩ := gated.settled rfl
          exact gated_passive balanced ledger plain (passive_quiet rfl plain_nil rfl)
            courteous
      | cons entry entries => exact gated_entryEffect balanced gated courteous.of_append

theorem Gated.begin (gated : Gated client [] history)
    {call : Call} (possible : call.Possible client)
    (courteous : Courteous (history ++ (call.start client).moments)) :
    Gated (call.start client).client (call.start client).duties
      (history ++ (call.start client).moments) := by
  have ledger : Ledger client history client.loader.holding := by
    obtain ⟨held, ledger, gates⟩ := gated.ledger
    have same : held = client.loader.holding := Loader.eq_of_turn_eq_nil gates.symm
    exact same ▸ ledger
  rw [← List.append_nil (call.start client).duties]
  cases call with
  | receive frame =>
      refine gated_passive balanced ledger plain_nil ?_ courteous
      cases decoded : Notification.ofFrame frame with
      | error error =>
          simp only [Call.start, decoded]
          exact ⟨rfl, plain_nil, rfl, rfl, .inl rfl⟩
      | ok notification =>
          simp only [Call.start, decoded]
          exact ⟨rfl, plain_singleton rfl rfl, rfl, rfl, .inl rfl⟩
  | lock =>
      exact gated_passive balanced ledger plain_nil (passive_lock client) courteous
  | unlock =>
      exact gated_passive balanced ledger plain_nil (passive_unlockEffect client)
        courteous
  | submit resources => exact gated_submit ledger plain_nil resources
  | completeLoad uri outcome =>
      obtain ⟨scripts, tracks⟩ := ledger.tracks
      exact gated_loaderEffect ledger plain_nil
        (Loader.turns_complete ledger.backed client.host possible outcome)
        ⟨_, Loader.tracks_complete tracks client.host uri outcome⟩
  | invokePortlet call =>
      exact gated_passive balanced ledger plain_nil
        (passive_portletEffect client none call) courteous
  | invokeHandler method params =>
      cases found : client.handlers.find? method with
      | none =>
          refine gated_passive balanced ledger plain_nil ?_ courteous
          simp only [Call.start, found]
          exact passive_quiet rfl plain_nil rfl
      | some handler =>
          simp only [Call.start, found] at courteous ⊢
          exact gated_handlerEffect balanced ledger plain_nil none handler params
            courteous
  | _ =>
      exact gated_passive balanced ledger plain_nil (passive_quiet rfl plain_nil rfl)
        courteous

end Steps

/-! ## Courses -/

theorem gated_start {client : Client} (unused : client.loader = {}) :
    Gated client [] [] where
  entered := by simp
  rest := plain_nil
  ledger := by
    refine ⟨false, ?_, by simp [unused, Loader.turn]⟩
    refine ⟨?_, by rw [unused], ⟨[], ?_⟩, rfl, rfl⟩
    · simp [Loader.Backed, unused]
    · rw [unused]
      exact Resolver.tracks_start

namespace Course

theorem gated_reaches {client : Client} (fresh : client.inbox = {})
    (unused : client.loader = {}) {course : Course}
    (reached : ReflTransGen Step { client } course)
    (courteous : Courteous course.history) :
    Sound course.client.inbox course.duties course.history ∧
      Gated course.client course.duties course.history := by
  induction reached with
  | refl => exact ⟨fresh ▸ sound_start, gated_start unused⟩
  | tail _ last induction =>
      cases last with
      | begin ended possible =>
          obtain ⟨sound, gated⟩ := induction courteous.of_append
          rw [ended] at sound gated
          exact ⟨sound.begin _, gated.begin sound.balanced possible courteous⟩
      | proceed next =>
          obtain ⟨sound, gated⟩ := induction courteous.of_append
          rw [next] at sound gated
          exact ⟨@Sound.step _ _ [] _ _ sound, gated.step sound.balanced courteous⟩

theorem reaches_unwinds {client result : Client} {duties : List Duty}
    {moments : List Moment} (unwinds : Unwinds client duties moments result)
    (history : List Moment) :
    ReflTransGen Step { client, duties, history }
      { client := result, duties := [], history := history ++ moments } := by
  induction unwinds generalizing history with
  | done client => rw [List.append_nil]
  | @step client _ duty rest _ remaining induction =>
      have continued := induction (history ++ (duty.step client).moments)
      rw [List.append_assoc] at continued
      exact continued.head (.proceed rfl)

theorem reaches_call {course : Course} (idle : course.client.inbox.dispatching = false)
    (ended : course.duties = []) {call : Call}
    (possible : call.Possible course.client) :
    ∃ other : Course, ReflTransGen Step course other ∧ other.duties = [] ∧
      other.client = call.result course.client := by
  obtain ⟨moments, unwinds⟩ := (carries_call idle call).unwinds
  have called := reaches_unwinds unwinds
    (course.history ++ (call.start course.client).moments)
  exact ⟨_, called.head (.begin ended possible), rfl, rfl⟩

end Course

/-- No handler of a notification starts while the loader has anything going on,
and no notification is left behind once nothing is loading and the page holds no
lock.  Notifications are taken in the order of their arrival. -/
theorem loading_eq_nil_of_invoke {client : Client} (fresh : client.inbox = {})
    (unused : client.loader = {}) {course : Course}
    (reached : ReflTransGen Course.Step { client } course)
    (courteous : Courteous course.history) :
    (∀ notification rest, course.duties = .invoke notification :: rest →
        course.client.loader.loading = [] ∧
          ∀ waiting ∈ course.client.loader.resolver.pending,
            ∃ name ∈ waiting.descriptor.requires,
              name ∉ course.client.loader.resolver.provided) ∧
      (course.client.loader.loading = [] →
        (lockings course.history).count .page = (releases course.history).count .page →
        (∀ duty ∈ course.duties,
          duty.drains = false ∧ duty ≠ .dispatch ∧ duty.gates = []) →
          course.client.inbox.queue = []) ∧
      takings course.history ++ course.client.inbox.queue = arrivals course.history ∧
      (course.duties = [] → ∀ call : Call, call.Possible course.client →
        ∃ other : Course, ReflTransGen Course.Step course other ∧ other.duties = [] ∧
          other.client = call.result course.client) := by
  obtain ⟨sound, gated⟩ := Course.gated_reaches fresh unused reached courteous
  have balanced := sound.balanced
  rw [length_eq_count_add_count, length_eq_count_add_count] at balanced
  refine ⟨?_, ?_, sound.conserved, ?_⟩
  · intro notification rest starts
    have unlocked := gated.entered notification rest starts
    rw [starts] at gated
    obtain ⟨ledger, _⟩ := gated.settled rfl
    -- No lock is held, and the page owes none: the loader holds none either.
    have bound := courteous course.history [] (List.append_nil _).symm
    have balance := ledger.balance
    rw [ledger.obeyed] at bound
    have free : course.client.loader.holding = false := by
      cases held : course.client.loader.holding with
      | false => rfl
      | true =>
          rw [held, Bool.toNat_true] at balance
          omega
    constructor
    · by_contra busy
      have held := ledger.backed.mpr busy
      rw [free] at held
      contradiction
    · intro waiting member
      obtain ⟨scripts, tracks⟩ := ledger.tracks
      exact Loader.exists_required_not_provided tracks member
  · intro idle returned quiet
    obtain ⟨held, ledger, gates⟩ := gated.ledger
    have none : course.duties.flatMap Duty.gates = [] :=
      List.flatMap_eq_nil_iff.mpr fun duty member => (quiet duty member).2.2
    have same := Loader.eq_of_turn_eq_nil (gates.symm.trans none)
    have free : course.client.loader.holding = false := by
      cases flag : course.client.loader.holding with
      | false => rfl
      | true => exact absurd idle (ledger.backed.mp flag)
    have balance := ledger.balance
    rw [same, free, Bool.toNat_false] at balance
    rw [ledger.obeyed] at returned
    have unlocked : course.client.inbox.locks = 0 := by omega
    -- A notification that waited would have somebody on the way to handle it.
    by_contra waiting
    have count := sound.exclusive
    rw [countP_drains_eq_zero.mpr fun duty member => (quiet duty member).1] at count
    rcases sound.awake waiting unlocked with busy | called
    · simp [busy] at count
    · exact (quiet _ called).2.1 rfl
  · intro ended call possible
    have count := sound.exclusive
    rw [ended] at count
    have flag : course.client.inbox.dispatching = false := by
      cases flag : course.client.inbox.dispatching with
      | false => rfl
      | true => simp [flag] at count
    exact Course.reaches_call flag ended possible

/-- A notification that arrives while a script is loading waits. -/
theorem loading_eq_nil_of_invoke_loading :
    let plan : LinkPlan := ⟨"ws://portal/S1", ⟨"S1"⟩, 1000, 60000, none⟩
    let client := startStandard plan { execute := fun _ _ => .ok () }
    let frame := "\x7b\"jsonrpc\":\"2.0\",\"method\":\"news\"\x7d"
    client.inbox = {} ∧ client.loader = {} ∧ (arrivals [.received frame]).length = 1 ∧
      ∃ course : Course,
        ReflTransGen Course.Step { client } course ∧ Courteous course.history ∧
        course.client.loader.uris = ["a.js"] ∧ course.client.inbox.queue.length = 1 ∧
        takings course.history ++ course.client.inbox.queue
          = arrivals course.history := by
  intro plan client frame
  let resources : PageResources := { scripts := [{ uri := some "a.js" }] }
  have entries : (client.loader.submit client.host resources).journal
      = [.lock, .fetch "a.js"] := by decide +kernel
  have loads : (client.loader.submit client.host resources).uris = ["a.js"] := by
    decide +kernel
  have one : (arrivals [.received frame]).length = 1 := by decide +kernel
  obtain ⟨notification, decoded⟩ :
      ∃ notification, Notification.ofFrame frame = .ok notification := by
    cases decoded : Notification.ofFrame frame with
    | ok notification => exact ⟨notification, rfl⟩
    | error error => simp [decoded, Except.toOption] at one
  have submitted := @Course.Step.begin { client } (.submit resources) rfl trivial
  simp only [Call.start, loaderEffect, entries] at submitted
  have served := (((ReflTransGen.single submitted).tail (.proceed rfl)).tail
    (.proceed rfl)).tail (.proceed rfl)
  have arrived := served.tail (@Course.Step.begin _ (.receive frame) rfl trivial)
  simp only [Call.start, decoded] at arrived
  have reached := (arrived.tail (.proceed rfl)).tail (.proceed rfl)
  have none : releases ([] ++ [] ++ [.locked .loader] ++ [] ++ [] ++ [.received frame]
      ++ [] ++ []) = [] := rfl
  have courteous := courteous_of_releases_eq_nil none
  obtain ⟨_, _, whole, _⟩ := loading_eq_nil_of_invoke rfl rfl reached courteous
  exact ⟨rfl, rfl, one, _, reached, courteous, loads, rfl, whole⟩

end PageSession.Client
