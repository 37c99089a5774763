import PageSession.Proofs.Client.Unwinding

/-!
# Dispatch is ordered, exclusive, gated and never stuck

However the calls of a client interleave, and whatever handlers and the loader
do in the middle of a call, notifications are taken in the order of their
arrival, one at a time and while no lock is held, and none is left behind once
nobody holds a lock.

The invariant counts, over all calls in progress, those that are in the loop
over the queue: one if the flag is set and none otherwise.
-/

open Relation

namespace PageSession.Client

/-! ## What a history says -/

namespace Moment

/-- The notification that arrived, if its frame could be decoded. -/
@[simp] def arrived? : Moment → Option Notification
  | .received frame => (Notification.ofFrame frame).toOption
  | _ => none

@[simp] def taken? : Moment → Option Notification
  | .taken notification => some notification
  | _ => none

@[simp] def finished? : Moment → Option Notification
  | .finished notification => some notification
  | _ => none

@[simp] def locked? : Moment → Option Party
  | .locked party => some party
  | _ => none

/-- Who took a lock back; unlocks that found none do not count. -/
@[simp] def unlocked? : Moment → Option Party
  | .unlocked party => some party
  | _ => none

end Moment

/-- The notifications that arrived, in order. -/
def arrivals (history : List Moment) : List Notification :=
  history.filterMap Moment.arrived?

def takings (history : List Moment) : List Notification :=
  history.filterMap Moment.taken?

def finishings (history : List Moment) : List Notification :=
  history.filterMap Moment.finished?

def lockings (history : List Moment) : List Party :=
  history.filterMap Moment.locked?

def unlockings (history : List Moment) : List Party :=
  history.filterMap Moment.unlocked?

section Histories

variable (moment : Moment) (history moments : List Moment)

@[simp] theorem arrivals_nil : arrivals [] = [] := rfl

@[simp] theorem arrivals_cons :
    arrivals (moment :: moments) = moment.arrived?.toList ++ arrivals moments := by
  rw [arrivals, arrivals, List.filterMap_cons]
  cases moment.arrived? <;> rfl

@[simp] theorem arrivals_append :
    arrivals (history ++ moments) = arrivals history ++ arrivals moments :=
  List.filterMap_append

@[simp] theorem takings_nil : takings [] = [] := rfl

@[simp] theorem takings_cons :
    takings (moment :: moments) = moment.taken?.toList ++ takings moments := by
  rw [takings, takings, List.filterMap_cons]
  cases moment.taken? <;> rfl

@[simp] theorem takings_append :
    takings (history ++ moments) = takings history ++ takings moments :=
  List.filterMap_append

@[simp] theorem finishings_nil : finishings [] = [] := rfl

@[simp] theorem finishings_cons :
    finishings (moment :: moments) = moment.finished?.toList ++ finishings moments := by
  rw [finishings, finishings, List.filterMap_cons]
  cases moment.finished? <;> rfl

@[simp] theorem finishings_append :
    finishings (history ++ moments) = finishings history ++ finishings moments :=
  List.filterMap_append

@[simp] theorem lockings_nil : lockings [] = [] := rfl

@[simp] theorem lockings_cons :
    lockings (moment :: moments) = moment.locked?.toList ++ lockings moments := by
  rw [lockings, lockings, List.filterMap_cons]
  cases moment.locked? <;> rfl

@[simp] theorem lockings_append :
    lockings (history ++ moments) = lockings history ++ lockings moments :=
  List.filterMap_append

@[simp] theorem unlockings_nil : unlockings [] = [] := rfl

@[simp] theorem unlockings_cons :
    unlockings (moment :: moments) = moment.unlocked?.toList ++ unlockings moments := by
  rw [unlockings, unlockings, List.filterMap_cons]
  cases moment.unlocked? <;> rfl

@[simp] theorem unlockings_append :
    unlockings (history ++ moments) = unlockings history ++ unlockings moments :=
  List.filterMap_append

end Histories

/-- Whenever a notification was taken, all those taken before had been finished
and all locks had been taken back. -/
def Orderly (history : List Moment) : Prop :=
  ∀ before notification after, history = before ++ .taken notification :: after →
    finishings before = takings before ∧
      (lockings before).length = (unlockings before).length

theorem orderly_nil : Orderly [] := by
  intro before notification after same
  simp at same

theorem Orderly.append {history moments : List Moment} (orderly : Orderly history)
    (none : takings moments = []) : Orderly (history ++ moments) := by
  intro before notification after same
  rcases List.append_eq_append_iff.mp same with
    ⟨middle, left, right⟩ | ⟨middle, left, right⟩
  · have member : Moment.taken notification ∈ moments := by
      rw [right]
      simp
    have taken : notification ∈ takings moments :=
      List.mem_filterMap.mpr ⟨_, member, rfl⟩
    rw [none] at taken
    contradiction
  · cases middle with
    | nil =>
        rw [List.nil_append] at right
        have taken : notification ∈ takings moments := by
          rw [← right]
          simp [takings, Moment.taken?]
        rw [none] at taken
        contradiction
    | cons moment middle =>
        obtain ⟨rfl, _⟩ := List.cons.inj right
        exact orderly before notification middle left

theorem Orderly.take {history : List Moment} (orderly : Orderly history)
    (notification : Notification) (finished : finishings history = takings history)
    (balanced : (lockings history).length = (unlockings history).length) :
    Orderly (history ++ [.taken notification]) := by
  intro before other after same
  rcases List.append_eq_append_iff.mp same with
    ⟨middle, left, right⟩ | ⟨middle, left, right⟩
  · cases middle with
    | nil =>
        rw [List.append_nil] at left
        exact left ▸ ⟨finished, balanced⟩
    | cons moment middle => simp at right
  · cases middle with
    | nil =>
        rw [List.append_nil] at left
        exact left ▸ ⟨finished, balanced⟩
    | cons moment middle =>
        obtain ⟨rfl, _⟩ := List.cons.inj right
        exact orderly before other middle left

/-! ## The invariant -/

/-- Whether a duty belongs to the loop over the queue. -/
def Duty.drains : Duty → Bool
  | .drain | .finish _ => true
  | _ => false

/-- The notification that a duty waits for. -/
def Duty.handled? : Duty → Option Notification
  | .finish notification => some notification
  | _ => none

/-- What holds of an inbox, of all that is left to do, and of what happened. -/
structure Sound (inbox : Inbox) (duties : List Duty) (history : List Moment) :
    Prop where
  exclusive : duties.countP Duty.drains = inbox.dispatching.toNat
  conserved : takings history ++ inbox.queue = arrivals history
  successive : finishings history ++ duties.filterMap Duty.handled? = takings history
  balanced : (lockings history).length = inbox.locks + (unlockings history).length
  awake : inbox.queue ≠ [] → inbox.locks = 0 →
    inbox.dispatching = true ∨ Duty.dispatch ∈ duties
  orderly : Orderly history

theorem sound_start : Sound {} [] [] where
  exclusive := rfl
  conserved := rfl
  successive := rfl
  balanced := rfl
  awake := by simp
  orderly := orderly_nil

/-- An effect outside of the loop over the queue: it takes and finishes nothing,
keeps account of locks, and sees to it that the queue is handled if it could be
and could not be before. -/
structure Mild (inbox : Inbox) (effect : Effect) : Prop where
  dispatching : effect.client.inbox.dispatching = inbox.dispatching
  outside : ∀ duty ∈ effect.duties, duty.drains = false
  queue : effect.client.inbox.queue = inbox.queue ++ arrivals effect.moments
  takesNone : takings effect.moments = []
  finishesNone : finishings effect.moments = []
  locks : effect.client.inbox.locks + (unlockings effect.moments).length
    = inbox.locks + (lockings effect.moments).length
  awake : effect.client.inbox.queue ≠ [] → effect.client.inbox.locks = 0 →
    Duty.dispatch ∈ effect.duties ∨ inbox.queue ≠ [] ∧ inbox.locks = 0

theorem handled?_of_drains {duty : Duty} (outside : duty.drains = false) :
    duty.handled? = none := by
  cases duty <;> first | rfl | contradiction

theorem filterMap_handled?_of_drains {duties : List Duty}
    (outside : ∀ duty ∈ duties, duty.drains = false) :
    duties.filterMap Duty.handled? = [] := by
  rw [List.filterMap_eq_nil_iff]
  intro duty member
  exact handled?_of_drains (outside duty member)

theorem countP_drains_eq_zero {duties : List Duty} :
    duties.countP Duty.drains = 0 ↔ ∀ duty ∈ duties, duty.drains = false := by
  simp [List.countP_eq_zero]

namespace Sound

variable {inbox : Inbox} {before after : List Duty} {history : List Moment}

theorem mild {effect : Effect} (sound : Sound inbox (before ++ after) history)
    (mild : Mild inbox effect) :
    Sound effect.client.inbox (before ++ (effect.duties ++ after))
      (history ++ effect.moments) where
  exclusive := by
    have none := countP_drains_eq_zero.mpr mild.outside
    have count := sound.exclusive
    rw [List.countP_append] at count
    rw [List.countP_append, List.countP_append, none, mild.dispatching]
    omega
  conserved := by
    rw [takings_append, arrivals_append, mild.takesNone, mild.queue, ← sound.conserved]
    simp
  successive := by
    have none := filterMap_handled?_of_drains mild.outside
    have same := sound.successive
    rw [List.filterMap_append] at same
    rw [finishings_append, takings_append, mild.takesNone, mild.finishesNone]
    simpa [none] using same
  balanced := by
    have same := sound.balanced
    have change := mild.locks
    rw [lockings_append, unlockings_append, List.length_append, List.length_append]
    omega
  awake := by
    intro waiting unlocked
    rcases mild.awake waiting unlocked with added | ⟨waited, wasUnlocked⟩
    · exact .inr (by simp [added])
    · rcases sound.awake waited wasUnlocked with busy | called
      · exact .inl (mild.dispatching.trans busy)
      · refine .inr ?_
        rcases List.mem_append.mp called with called | called
        · exact List.mem_append_left _ called
        · exact List.mem_append_right _ (List.mem_append_right _ called)
  orderly := sound.orderly.append mild.takesNone

/-- A duty outside of the loop, other than a call to handle the queue, can be
left out of account. -/
theorem remove {duty : Duty} (sound : Sound inbox (before ++ duty :: after) history)
    (outside : duty.drains = false) (other : duty ≠ .dispatch) :
    Sound inbox (before ++ after) history :=
  { sound with
    exclusive := by
      have count := sound.exclusive
      rw [List.countP_append, List.countP_cons_of_neg (by simp [outside])] at count
      rw [List.countP_append]
      exact count
    successive := by
      have same := sound.successive
      rw [List.filterMap_append,
        List.filterMap_cons_none (handled?_of_drains outside)] at same
      rw [List.filterMap_append]
      exact same
    awake := by
      intro waiting unlocked
      rcases sound.awake waiting unlocked with busy | called
      · exact .inl busy
      · refine .inr ?_
        rcases List.mem_append.mp called with called | called
        · exact List.mem_append_left _ called
        · rcases List.mem_cons.mp called with equal | called
          · exact absurd equal.symm other
          · exact List.mem_append_right _ called }

/-- A call to handle the queue looks at the flag. -/
theorem dispatch {client : Client}
    (sound : Sound client.inbox (before ++ .dispatch :: after) history) :
    Sound (Duty.step client .dispatch).client.inbox
      (before ++ ((Duty.step client .dispatch).duties ++ after))
      (history ++ (Duty.step client .dispatch).moments) := by
  have count := sound.exclusive
  rw [List.countP_append, List.countP_cons_of_neg (by simp [Duty.drains])] at count
  have same := sound.successive
  rw [List.filterMap_append, List.filterMap_cons_none rfl] at same
  cases flag : client.inbox.dispatching with
  | true =>
      rw [step_dispatch_busy flag]
      simp only [List.nil_append, List.append_nil]
      exact
        { sound with
          exclusive := by rw [List.countP_append]; exact count
          successive := by rw [List.filterMap_append]; exact same
          awake := fun _ _ => .inl flag }
  | false =>
      rw [step_dispatch_idle flag]
      rw [flag, Bool.toNat_false] at count
      rw [List.append_nil]
      exact
        { sound with
          exclusive := by
            rw [List.countP_append, List.countP_append,
              List.countP_singleton, inbox_flagged]
            simp [Duty.drains]
            omega
          successive := by
            rw [List.filterMap_append, List.filterMap_append]
            exact same
          awake := fun _ _ => .inl rfl }

/-- With one duty known to be in the loop, the flag is set and no other duty is
in the loop. -/
theorem alone {duty : Duty} (sound : Sound inbox (before ++ duty :: after) history)
    (inside : duty.drains = true) :
    inbox.dispatching = true ∧ (∀ other ∈ before, other.drains = false) ∧
      ∀ other ∈ after, other.drains = false := by
  have count := sound.exclusive
  rw [List.countP_append, List.countP_cons_of_pos inside] at count
  cases busy : inbox.dispatching with
  | false =>
      rw [busy, Bool.toNat_false] at count
      omega
  | true =>
      rw [busy, Bool.toNat_true] at count
      refine ⟨rfl, countP_drains_eq_zero.mp ?_, countP_drains_eq_zero.mp ?_⟩ <;> omega

/-- With no duty in the loop, the flag is not set. -/
theorem idle {duties : List Duty} (sound : Sound inbox duties history)
    (outside : ∀ duty ∈ duties, duty.drains = false) : inbox.dispatching = false := by
  have count := sound.exclusive
  rw [countP_drains_eq_zero.mpr outside] at count
  cases flag : inbox.dispatching with
  | false => rfl
  | true => simp [flag] at count

theorem finish {notification : Notification}
    (sound : Sound inbox (before ++ .finish notification :: after) history) :
    Sound inbox (before ++ ([.drain] ++ after))
      (history ++ [.finished notification]) := by
  obtain ⟨busy, outsideBefore, outsideAfter⟩ := sound.alone rfl
  have noneBefore := filterMap_handled?_of_drains outsideBefore
  have noneAfter := filterMap_handled?_of_drains outsideAfter
  exact
    { exclusive := by
        have count := sound.exclusive
        rw [List.countP_append, List.countP_cons_of_pos rfl] at count
        rw [List.countP_append, List.countP_append, ← count]
        simp [Duty.drains]
        omega
      conserved := by
        simpa using sound.conserved
      successive := by
        have same := sound.successive
        simp only [List.filterMap_append, List.filterMap_cons, noneBefore, noneAfter,
          List.nil_append, Duty.handled?] at same
        simp [List.filterMap_cons, Duty.handled?, noneBefore, noneAfter, ← same]
      balanced := by
        simpa using sound.balanced
      awake := fun _ _ => .inl busy
      orderly := sound.orderly.append rfl }

theorem drain {client : Client}
    (sound : Sound client.inbox (before ++ .drain :: after) history) :
    Sound (Duty.step client .drain).client.inbox
      (before ++ ((Duty.step client .drain).duties ++ after))
      (history ++ (Duty.step client .drain).moments) := by
  -- No other call is in the loop, so no notification is being handled.
  obtain ⟨busy, outsideBefore, outsideAfter⟩ := sound.alone rfl
  have noneBefore := filterMap_handled?_of_drains outsideBefore
  have noneAfter := filterMap_handled?_of_drains outsideAfter
  have countBefore := countP_drains_eq_zero.mpr outsideBefore
  have countAfter := countP_drains_eq_zero.mpr outsideAfter
  have finished : finishings history = takings history := by
    simpa [List.filterMap_cons, Duty.handled?, noneBefore, noneAfter]
      using sound.successive
  have stops : (client.inbox.queue ≠ [] → client.inbox.locks ≠ 0) →
      Sound (client.flagged false).inbox (before ++ ([] ++ after)) (history ++ []) := by
    intro stop
    rw [List.append_nil, List.nil_append]
    exact
      { exclusive := by simp [countBefore, countAfter]
        conserved := sound.conserved
        successive := by simp [noneBefore, noneAfter, finished]
        balanced := sound.balanced
        awake := fun waiting unlocked => absurd unlocked (stop waiting)
        orderly := sound.orderly }
  by_cases unlocked : client.inbox.locks = 0
  case neg =>
    rw [step_drain_locked unlocked]
    exact stops fun _ => unlocked
  case pos =>
    cases waiting : client.inbox.queue with
    | nil =>
        rw [step_drain_empty waiting]
        exact stops fun nonempty => absurd waiting nonempty
    | cons notification rest =>
        rw [step_drain_take unlocked waiting]
        have conserved := sound.conserved
        have balanced := sound.balanced
        rw [waiting] at conserved
        rw [unlocked, Nat.zero_add] at balanced
        exact
          { exclusive := by
              simp [List.countP_cons, countBefore, countAfter, busy, Duty.drains]
            conserved := by
              simp [← conserved]
            successive := by
              simp [List.filterMap_cons, Duty.handled?, noneBefore, noneAfter, finished]
            balanced := by
              simpa using sound.balanced
            awake := fun _ _ => .inl busy
            orderly := sound.orderly.take notification finished balanced }

end Sound

/-! ## What handlers and the loader do -/

theorem mild_quiet {inbox : Inbox} {effect : Effect}
    (same : effect.client.inbox = inbox)
    (outside : ∀ duty ∈ effect.duties, duty.drains = false)
    (unseen : effect.moments = []) : Mild inbox effect where
  dispatching := by rw [same]
  outside := outside
  queue := by simp [same, unseen]
  takesNone := by simp [unseen]
  finishesNone := by simp [unseen]
  locks := by simp [same, unseen]
  awake := by
    intro waiting unlocked
    rw [same] at waiting unlocked
    exact .inr ⟨waiting, unlocked⟩

theorem mild_lock (client : Client) (party : Party) :
    Mild client.inbox { client := client.lock, moments := [.locked party] } where
  dispatching := rfl
  outside := by simp
  queue := by simp
  takesNone := rfl
  finishesNone := rfl
  locks := by simp
  awake := by simp

/-- The last unlock calls for the queue to be handled. -/
theorem mild_unlockEffect (client : Client) (party : Party) :
    Mild client.inbox (client.unlockEffect party) where
  dispatching := by simp [unlockEffect]
  outside := by
    intro duty member
    unfold unlockEffect at member
    split at member
    · rw [List.mem_singleton.mp member]
      rfl
    · contradiction
  queue := by
    by_cases none : client.inbox.locks = 0 <;> simp [unlockEffect, none]
  takesNone := by
    by_cases none : client.inbox.locks = 0 <;> simp [unlockEffect, none]
  finishesNone := by
    by_cases none : client.inbox.locks = 0 <;> simp [unlockEffect, none]
  locks := by
    unfold unlockEffect
    by_cases none : client.inbox.locks = 0
    · simp [none]
    · simp [none]
      omega
  awake := by
    intro waiting unlocked
    simp only [unlockEffect, inbox_unlockThen_id] at waiting unlocked ⊢
    by_cases last : client.inbox.locks = 1
    · simp [last]
    · exact .inr ⟨waiting, by omega⟩

theorem Mild.append {inbox : Inbox} {effect : Effect} (mild : Mild inbox effect)
    {duty : Duty} (outside : duty.drains = false) :
    Mild inbox { effect with duties := effect.duties ++ [duty] } :=
  { mild with
    outside := by
      intro other member
      rcases List.mem_append.mp member with member | member
      · exact mild.outside other member
      · rw [List.mem_singleton.mp member]
        exact outside
    awake := by
      intro waiting unlocked
      rcases mild.awake waiting unlocked with called | before
      · exact .inl (List.mem_append_left _ called)
      · exact .inr before }

section Effects

variable (client : Client) (handled : Option String)

theorem mild_commandEffect (command : Command) :
    Mild client.inbox (client.commandEffect command) := by
  cases command with
  | lock => exact mild_lock client .page
  | unlock => exact mild_unlockEffect client .page
  | _ => exact mild_quiet rfl (by simp [commandEffect]) rfl

theorem mild_entryEffect (entry : Loader.Report) :
    Mild client.inbox (client.entryEffect entry) := by
  cases entry with
  | lock => exact mild_lock (client.report _) .loader
  | unlock => exact mild_unlockEffect (client.report _) .loader
  | _ => exact mild_quiet rfl (by simp [entryEffect]) rfl

theorem mild_loaderEffect (change : Loader → Loader) :
    Mild client.inbox (client.loaderEffect change) :=
  mild_quiet rfl (by simp [loaderEffect, Duty.drains]) rfl

theorem mild_portletEffect (call : PortletCall) :
    Mild client.inbox (client.portletEffect handled call) := by
  unfold portletEffect
  split
  · exact mild_quiet rfl (by simp) rfl
  · exact mild_quiet rfl (by simp [Duty.drains]) rfl

theorem mild_requestEffect (request : PortalRequest) :
    Mild client.inbox (client.requestEffect handled request) := by
  cases request with
  | addResources resources =>
      exact mild_loaderEffect client fun loader => loader.submit client.host resources
  | callPortlet call => exact mild_portletEffect client handled call
  | _ => exact mild_quiet rfl (by simp [requestEffect]) rfl

theorem mild_handlerEffect (handler : Handler) (params : List Json.Value) :
    Mild client.inbox (client.handlerEffect handled handler params) := by
  unfold handlerEffect
  split
  · exact mild_quiet rfl (by simp [Duty.drains]) rfl
  · split
    · exact mild_requestEffect client handled _
    · exact mild_quiet (by simp) (by simp) rfl

theorem mild_start (call : Call) : Mild client.inbox (call.start client) := by
  cases call with
  | receive frame =>
      cases decoded : Notification.ofFrame frame with
      | error error =>
          simp only [Call.start, decoded]
          exact
            { dispatching := rfl
              outside := by simp
              queue := by simp [decoded, Except.toOption]
              takesNone := rfl
              finishesNone := rfl
              locks := by simp
              awake := fun waiting unlocked => .inr ⟨waiting, unlocked⟩ }
      | ok notification =>
          simp only [Call.start, decoded]
          exact
            { dispatching := rfl
              outside := by simp [Duty.drains]
              queue := by simp [decoded, Except.toOption]
              takesNone := rfl
              finishesNone := rfl
              locks := by simp
              awake := fun _ _ => .inl List.mem_cons_self }
  | lock => exact mild_lock client .page
  | unlock => exact mild_unlockEffect client .page
  | submit resources =>
      exact mild_loaderEffect client fun loader => loader.submit client.host resources
  | completeLoad uri outcome =>
      exact mild_loaderEffect client
        fun loader => loader.complete client.host uri outcome
  | invokePortlet call => exact mild_portletEffect client none call
  | invokeHandler method params =>
      cases found : client.handlers.find? method with
      | none =>
          simp only [Call.start, found]
          exact mild_quiet rfl (by simp) rfl
      | some handler =>
          simp only [Call.start, found]
          exact mild_handlerEffect client none handler params
  | _ => exact mild_quiet rfl (by simp [Call.start]) rfl

/-- Outside of the loop over the queue, every step is mild. -/
theorem mild_step {duty : Duty} (outside : duty.drains = false)
    (other : duty ≠ .dispatch) :
    Mild client.inbox (duty.step client) := by
  cases duty with
  | dispatch => contradiction
  | drain => contradiction
  | finish notification => contradiction
  | invoke notification =>
      cases found : client.handlers.find? notification.method with
      | none =>
          simp only [Duty.step, found]
          exact mild_quiet rfl (by simp) rfl
      | some handler =>
          simp only [Duty.step, found]
          exact mild_handlerEffect client _ handler _
  | run handled program =>
      cases program with
      | done outcome => exact mild_quiet (by simp [Duty.step]) (by simp [Duty.step]) rfl
      | look next => exact mild_quiet rfl (by simp [Duty.step, Duty.drains]) rfl
      | perform command next => exact (mild_commandEffect client command).append rfl
  | serve entries =>
      cases entries with
      | nil => exact mild_quiet rfl (by simp [Duty.step]) rfl
      | cons entry entries => exact (mild_entryEffect client entry).append rfl

end Effects

/-- Only the loop over the queue takes notifications. -/
theorem takings_step {client : Client} {duty : Duty} (other : duty ≠ .drain) :
    takings (duty.step client).moments = [] := by
  cases duty with
  | drain => contradiction
  | dispatch =>
      simp only [Duty.step]
      split <;> rfl
  | finish notification => rfl
  | _ => exact (mild_step client rfl (by simp)).takesNone

/-! ## Runs -/

theorem Sound.step {client : Client} {duty : Duty} {before after : List Duty}
    {history : List Moment}
    (sound : Sound client.inbox (before ++ duty :: after) history) :
    Sound (duty.step client).client.inbox
      (before ++ ((duty.step client).duties ++ after))
      (history ++ (duty.step client).moments) := by
  cases inside : duty.drains with
  | true =>
      cases duty with
      | drain => exact sound.drain
      | finish notification => exact sound.finish
      | _ => contradiction
  | false =>
      by_cases called : duty = .dispatch
      · subst called
        exact sound.dispatch
      · exact (sound.remove inside called).mild (mild_step client inside called)

theorem Sound.begin {client : Client} {duties : List Duty} {history : List Moment}
    (sound : Sound client.inbox duties history) (call : Call) :
    Sound (call.start client).client.inbox (duties ++ (call.start client).duties)
      (history ++ (call.start client).moments) := by
  have begun := @Sound.mild client.inbox duties [] history _ (by simpa using sound)
    (mild_start client call)
  simpa using begun

def Activity.Sound (activity : Activity) : Prop :=
  Client.Sound activity.client.inbox activity.duties activity.history

theorem Activity.Sound.step {activity other : Activity} (sound : activity.Sound)
    (step : activity.Step other) : other.Sound := by
  cases step with
  | begin call =>
      have begun := Client.Sound.begin sound call
      simpa [Activity.Sound, Activity.duties] using begun
  | proceed chosen =>
      unfold Activity.Sound Activity.duties at sound
      rw [chosen, List.flatten_append, List.flatten_cons, List.cons_append] at sound
      have proceeded := sound.step
      simpa [Activity.Sound, Activity.duties] using proceeded

theorem Activity.Sound.reaches {activity other : Activity} (sound : activity.Sound)
    (reaches : ReflTransGen Activity.Step activity other) : other.Sound := by
  induction reaches with
  | refl => exact sound
  | tail _ last induction => exact induction.step last

/-- A client that is new to notifications has them dispatched in order, one at a
time, only while no lock is held, and without leaving any behind; and whatever
its functions do, one call after the other, is among what may happen. -/
theorem takings_append_queue {client : Client} (fresh : client.inbox = {})
    {activity : Activity} (reached : ReflTransGen Activity.Step { client } activity) :
    takings activity.history ++ activity.client.inbox.queue
        = arrivals activity.history ∧
      (∀ before notification after,
        activity.history = before ++ .taken notification :: after →
          finishings before = takings before ∧
            (lockings before).length = (unlockings before).length) ∧
      (lockings activity.history).length
        = activity.client.inbox.locks + (unlockings activity.history).length ∧
      ((∀ duty ∈ activity.duties, duty.drains = false ∧ duty ≠ .dispatch) →
        activity.client.inbox.locks = 0 →
          activity.client.inbox.queue = [] ∧
            activity.client.inbox.dispatching = false) ∧
      (activity.duties = [] → ∀ calls : List Call, ∃ other : Activity,
        ReflTransGen Activity.Step activity other ∧ other.duties = [] ∧
          other.client = calls.foldl Call.result activity.client) := by
  have started : Activity.Sound { client } := by
    unfold Activity.Sound
    rw [fresh]
    exact sound_start
  have sound := started.reaches reached
  have idle : (∀ duty ∈ activity.duties, duty.drains = false) →
      activity.client.inbox.dispatching = false := by
    intro outside
    have count := sound.exclusive
    rw [countP_drains_eq_zero.mpr outside] at count
    cases flag : activity.client.inbox.dispatching with
    | false => rfl
    | true => simp [flag] at count
  refine ⟨sound.conserved, sound.orderly, sound.balanced, ?_, ?_⟩
  · intro outside unlocked
    have flag := idle fun duty member => (outside duty member).1
    refine ⟨?_, flag⟩
    cases waiting : activity.client.inbox.queue with
    | nil => rfl
    | cons notification rest =>
        rcases sound.awake (by simp [waiting]) unlocked with busy | called
        · rw [flag] at busy
          contradiction
        · exact absurd rfl (outside _ called).2
  · intro ended calls
    apply Activity.reaches_calls calls (idle _) ended
    rw [ended]
    simp

/-- A notification that arrives while a lock is held waits. -/
theorem takings_append_queue_locked :
    let plan : LinkPlan := ⟨"ws://portal/S1", ⟨"S1"⟩, 1000, 60000, none⟩
    let client := startStandard plan { execute := fun _ _ => .ok () }
    let frame := "\x7b\"jsonrpc\":\"2.0\",\"method\":\"news\"\x7d"
    client.inbox = {} ∧ (arrivals [.received frame]).length = 1 ∧ ∃ activity : Activity,
      ReflTransGen Activity.Step { client } activity ∧ activity.client.inbox.locks = 1 ∧
        activity.client.inbox.queue.length = 1 ∧
        takings activity.history ++ activity.client.inbox.queue
          = arrivals activity.history := by
  intro plan client frame
  have locked : ReflTransGen Activity.Step { client } _ := .single (.begin .lock)
  have reached := locked.tail (.begin (.receive frame))
  obtain ⟨whole, _⟩ := takings_append_queue rfl reached
  exact
    ⟨rfl, by decide +kernel, _, reached, by decide +kernel, by decide +kernel, whole⟩

end PageSession.Client
