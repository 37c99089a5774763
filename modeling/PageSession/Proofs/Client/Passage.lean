import PageSession.Proofs.Client.Blindness

/-!
# Passages of calls

Each call is carried out to its end before the next one begins.  Beside the
client, a passage keeps the calls that have begun and what the notifications that
were taken have met with.  Between its calls it stands where the functions of the
client lead at once, and nothing waits unless a lock is held.
-/

open Relation

namespace PageSession.Client

theorem eq_of_unwinds_nil {client result : Client} {moments : List Moment}
    (unwinds : Unwinds client [] moments result) : client = result := by
  cases unwinds
  rfl

/-- The loop over the queue has nothing to take. -/
def Blocked (client : Client) : Prop :=
  client.inbox.locks ≠ 0 ∨ client.inbox.queue = []

theorem Blocked.step {client : Client} (blocked : client.Blocked) :
    Duty.step client .drain = { client := client.flagged false } := by
  rcases blocked with locked | empty
  · exact step_drain_locked locked
  · exact step_drain_empty empty

theorem blocked_or_waiting (client : Client) :
    client.Blocked ∨ client.inbox.locks = 0 ∧
      ∃ notification rest, client.inbox.queue = notification :: rest := by
  by_cases unlocked : client.inbox.locks = 0
  case neg => exact .inl (.inl unlocked)
  case pos =>
    cases waiting : client.inbox.queue with
    | nil => exact .inl (.inr waiting)
    | cons notification rest => exact .inr ⟨unlocked, notification, rest, rfl⟩

theorem Similar.blocked {omitted : List Bool} {client other : Client}
    (similar : Similar omitted client other) (blocked : client.Blocked) : other.Blocked := by
  rcases blocked with locked | empty
  · exact .inl (similar.locks ▸ locked)
  · refine .inr ?_
    rw [similar.queue, empty, thin_nil]

/-- What a notification that was taken meets with. -/
inductive Encounter where
  /-- It is given to its handler, if there is one. -/
  | given (notification : Notification) (handler : Option Handler)
  /-- It has been handled, with so many locks held. -/
  | settled (notification : Notification) (locks : Nat)

/-- Whether a duty is about a notification that was taken. -/
def Duty.attends : Duty → Bool
  | .invoke _ | .finish _ => true
  | _ => false

def Duty.encounters (client : Client) : Duty → List Encounter
  | .invoke notification =>
      [.given notification (client.handlers.find? notification.method)]
  | .finish notification => [.settled notification client.inbox.locks]
  | _ => []

/-- A client, what is left to do in the call in progress, the calls that have
begun, and what the notifications have met with. -/
structure Passage where
  client : Client
  duties : List Duty := []
  calls : List Call := []
  encounters : List Encounter := []

namespace Passage

def begin (passage : Passage) (call : Call) : Passage where
  client := (call.start passage.client).client
  duties := (call.start passage.client).duties
  calls := passage.calls ++ [call]
  encounters := passage.encounters

def proceed (passage : Passage) (duty : Duty) (rest : List Duty) : Passage where
  client := (duty.step passage.client).client
  duties := (duty.step passage.client).duties ++ rest
  calls := passage.calls
  encounters := passage.encounters ++ duty.encounters passage.client

inductive Step (passage : Passage) : Passage → Prop
  | begin (ended : passage.duties = []) (call : Call) : Step passage (passage.begin call)
  | proceed {duty : Duty} {rest : List Duty} (next : passage.duties = duty :: rest) :
      Step passage (passage.proceed duty rest)

/-- A passage is dispatched in order, and has done what the functions of the
client do at once. -/
structure Regular (start : Client) (passage : Passage) : Prop where
  sound : ∃ history, Sound passage.client.inbox passage.duties history
  unwinds : ∃ moments, Unwinds passage.client passage.duties moments
    (passage.calls.foldl Call.result start)

/-- Nobody looks at how many notifications wait, and handlers start only at the
head of what is left to do. -/
structure Blind (passage : Passage) : Prop where
  client : passage.client.Blind
  duties : ∀ duty ∈ passage.duties, duty.Blind
  tail : ∀ duty ∈ passage.duties.tail, duty.enters = false

namespace Regular

variable {start : Client} {passage : Passage}

theorem idle (regular : Regular start passage) (ended : passage.duties = []) :
    passage.client.inbox.dispatching = false := by
  obtain ⟨history, sound⟩ := regular.sound
  exact sound.idle (by simp [ended])

/-- Between calls, nothing waits unless a lock is held. -/
theorem queue_eq_nil (regular : Regular start passage) (ended : passage.duties = [])
    (unlocked : passage.client.inbox.locks = 0) : passage.client.inbox.queue = [] := by
  have flag := regular.idle ended
  obtain ⟨history, sound⟩ := regular.sound
  by_contra waiting
  rcases sound.awake waiting unlocked with busy | called
  · simp [flag] at busy
  · simp [ended] at called

theorem client_eq (regular : Regular start passage) (ended : passage.duties = []) :
    passage.client = passage.calls.foldl Call.result start := by
  obtain ⟨moments, unwinds⟩ := regular.unwinds
  rw [ended] at unwinds
  exact eq_of_unwinds_nil unwinds

/-- With one of the duties in the loop over the queue, the flag is set, and no
duty behind it is in the loop. -/
theorem alone (regular : Regular start passage) {duty : Duty} {rest : List Duty}
    (next : passage.duties = duty :: rest) (inside : duty.drains = true) :
    passage.client.inbox.dispatching = true ∧ ∀ other ∈ rest, other.drains = false := by
  obtain ⟨history, sound⟩ := regular.sound
  rw [next] at sound
  obtain ⟨busy, _, outside⟩ := @Sound.alone _ [] rest history duty sound inside
  exact ⟨busy, outside⟩

theorem begin (regular : Regular start passage) (ended : passage.duties = [])
    (call : Call) : Regular start (passage.begin call) where
  sound := by
    obtain ⟨history, sound⟩ := regular.sound
    have begun := sound.begin call
    rw [ended] at begun
    exact ⟨_, begun⟩
  unwinds := by
    have carries := carries_call (regular.idle ended) call
    rw [regular.client_eq ended] at carries
    have same : (passage.calls ++ [call]).foldl Call.result start
        = call.result (passage.calls.foldl Call.result start) := by
      rw [List.foldl_append, List.foldl_cons, List.foldl_nil]
    simp only [Passage.begin, same, regular.client_eq ended]
    exact carries.unwinds

theorem proceed (regular : Regular start passage) {duty : Duty} {rest : List Duty}
    (next : passage.duties = duty :: rest) :
    Regular start (passage.proceed duty rest) where
  sound := by
    obtain ⟨history, sound⟩ := regular.sound
    rw [next] at sound
    exact ⟨_, @Sound.step _ _ [] _ _ sound⟩
  unwinds := by
    obtain ⟨moments, unwinds⟩ := regular.unwinds
    rw [next] at unwinds
    cases unwinds with
    | step remaining => exact ⟨_, remaining⟩

end Regular

namespace Blind

variable {passage : Passage}

theorem of_mirrors {omitted : List Bool} {effect image : Effect}
    (mirrors : Mirrors omitted effect image) {duties : List Duty}
    (same : passage.client = effect.client) (left : passage.duties = effect.duties ++ duties)
    (blind : ∀ duty ∈ duties, duty.Blind) (stays : ∀ duty ∈ duties, duty.enters = false) :
    passage.Blind where
  client := same ▸ mirrors.blind
  duties := by
    rw [left]
    intro duty member
    rcases List.mem_append.mp member with member | member
    · exact (mirrors.inner duty member).1
    · exact blind duty member
  tail := by
    rw [left]
    intro duty member
    rcases List.mem_append.mp (List.mem_of_mem_tail member) with member | member
    · exact (mirrors.inner duty member).2
    · exact stays duty member

theorem begin (blind : passage.Blind) {call : Call} (shown : call.Blind) :
    (passage.begin call).Blind := by
  have mirrors := mirrors_begin (similar_refl passage.client) blind.client shown
  exact of_mirrors mirrors rfl (List.append_nil _).symm (by simp) (by simp)

/-- Whatever a step leaves to do, a handler is started by its first duty only. -/
theorem proceed (blind : passage.Blind) {duty : Duty} {rest : List Duty}
    (next : passage.duties = duty :: rest) : (passage.proceed duty rest).Blind := by
  have similar := similar_refl passage.client
  have shown := blind.duties
  have stays := blind.tail
  rw [next] at shown stays
  obtain ⟨dutyShown, restShown⟩ := List.forall_mem_cons.mp shown
  by_cases drains : duty = .drain
  case neg =>
    by_cases calls : duty = .dispatch
    · subst calls
      exact of_mirrors (mirrors_dispatch similar blind.client rfl) rfl rfl restShown stays
    · exact of_mirrors (mirrors_step similar blind.client dutyShown calls drains) rfl rfl
        restShown stays
  case pos =>
    subst drains
    have unchanged := blind.client
    rcases blocked_or_waiting passage.client with
      blocked | ⟨unlocked, notification, others, waiting⟩
    · constructor <;> simp only [Passage.proceed, blocked.step]
      case client => exact ⟨unchanged.handlers, unchanged.portlets⟩
      case duties => exact restShown
      case tail => exact fun other member => stays other (List.mem_of_mem_tail member)
    · constructor <;> simp only [Passage.proceed, step_drain_take unlocked waiting]
      case client => exact ⟨unchanged.handlers, unchanged.portlets⟩
      case duties =>
        exact List.forall_mem_cons.mpr
          ⟨trivial, List.forall_mem_cons.mpr ⟨trivial, restShown⟩⟩
      case tail => exact List.forall_mem_cons.mpr ⟨rfl, stays⟩

end Blind

theorem regular_reaches {start : Client} (fresh : start.inbox = {}) {passage : Passage}
    (reached : ReflTransGen Step { client := start } passage) :
    Regular start passage := by
  induction reached with
  | refl => exact ⟨⟨[], fresh ▸ sound_start⟩, ⟨[], .done start⟩⟩
  | tail _ last induction =>
      cases last with
      | begin ended call => exact induction.begin ended call
      | proceed next => exact induction.proceed next

theorem mem_calls_of_step {passage other : Passage} (step : passage.Step other)
    {call : Call} (member : call ∈ passage.calls) : call ∈ other.calls := by
  cases step with
  | begin ended begun => exact List.mem_append_left _ member
  | proceed next => exact member

end Passage

end PageSession.Client
