import Mathlib.Algebra.Order.Floor.Div
import Mathlib.Data.List.DropRight
import PageSession.Proofs.Link.Closing

/-!
# Keep-alive ticks and the suspension of a session

A tick is idle if the page sent nothing since the one before it, or since the
connection was opened.  A tick that is not idle adds nothing to the queue.  An idle one tells
the portal that the page is still there, except the one with which idle ticks in
a row first add up to the limit: that one suspends the session, with nothing
left in the queue, and nothing follows it until the page asks for a connection.

The idle time that a link counts is the interval times the number of idle ticks
in a row, or zero once something was sent.
-/

namespace PageSession.Link

/-- What counts for the inactivity of the page on an open connection. -/
inductive Beat where
  | sent
  | tick
deriving DecidableEq, Repr

/-- For each tick among some beats whether it is idle: nothing was sent since
the tick before it.  Whether something was sent before the first is given. -/
def idleTicks (sent : Bool) : List Beat → List Bool
  | [] => []
  | .sent :: beats => idleTicks true beats
  | .tick :: beats => (!sent) :: idleTicks false beats

/-- Whether something was sent since the last tick among some beats. -/
def stirred (sent : Bool) : List Beat → Bool
  | [] => sent
  | .sent :: beats => stirred true beats
  | .tick :: beats => stirred false beats

/-- How many of the last ticks are idle, up to one that is not. -/
def lull (ticks : List Bool) : Nat :=
  (ticks.rtakeWhile id).length

/-- How many idle ticks in a row suspend the session: as many as first cover the
limit, and at least one. -/
def tickLimit (plan : LinkPlan) : Option Nat :=
  plan.maxInactivity.map fun limit => max 1 (limit ⌈/⌉ plan.keepAliveInterval)

/-- Whether a tick now would be taken: it is due on an open connection that
waits. -/
def ticks (link : Link) : Bool :=
  match link.supervisors with
  | { dismissed := false, phase := .online _ due .idle, .. } :: _ => due ≤ link.now
  | _ => false

def beatOf? (link : Link) : Action → Option Beat
  | .send _ => some .sent
  | .react .tick => if link.ticks then some .tick else none
  | _ => none

/-- What counts for the inactivity of the page in the course of some actions. -/
def beats (link : Link) : List Action → List Beat
  | [] => []
  | action :: actions => (link.beatOf? action).toList ++ (link.perform action).beats actions

/-- Accepting the attempt that goes on opens a connection. -/
def Opens (link : Link) (connection : Nat) : Prop :=
  link.opened = connection ∧ (link.step .accepted).IsOpen connection

instance (link : Link) (connection : Nat) : Decidable (link.Opens connection) :=
  inferInstanceAs (Decidable (_ ∧ _))

theorem idleTicks_concat_tick (sent : Bool) (beats : List Beat) :
    idleTicks sent (beats ++ [.tick]) = idleTicks sent beats ++ [!stirred sent beats] := by
  induction beats generalizing sent with
  | nil => rfl
  | cons beat beats ih => cases beat <;> simp [idleTicks, stirred, ih]

theorem stirred_concat (sent : Bool) (beats : List Beat) (beat : Beat) :
    stirred sent (beats ++ [beat]) = (beat == .sent) := by
  induction beats generalizing sent with
  | nil => cases beat <;> rfl
  | cons head beats ih => cases head <;> simp [stirred, ih]

theorem lull_concat_true (ticks : List Bool) : lull (ticks ++ [true]) = lull ticks + 1 := by
  simp [lull]

theorem lull_concat_false (ticks : List Bool) : lull (ticks ++ [false]) = 0 := by
  simp [lull]

/-- While the count of idle ticks before has not reached the limit, the next one
reaches it exactly if it is the first whose count covers it. -/
theorem le_mul_succ_iff {interval limit count : Nat} (positive : 0 < interval)
    (below : 0 < count → interval * count < limit) :
    limit ≤ interval * (count + 1) ↔ count + 1 = max 1 (limit ⌈/⌉ interval) := by
  have covers : ∀ ticks, limit ⌈/⌉ interval ≤ ticks ↔ limit ≤ interval * ticks :=
    fun ticks => ceilDiv_le_iff_le_mul positive
  constructor
  · intro reached
    have upper := (covers (count + 1)).mpr reached
    rcases Nat.eq_zero_or_pos count with rfl | some
    · omega
    · have lower : ¬ limit ⌈/⌉ interval ≤ count := by
        rw [covers]
        exact Nat.not_le_of_gt (below some)
      omega
  · intro exact
    apply (covers (count + 1)).mp
    omega

variable {link next : Link} {supervisor : Supervisor} {others : List Supervisor}
  {stimulus : Stimulus} {action : Action} {connection : Nat} {past : List Beat}

/-! ## A connection is opened once -/

theorem opened_le_perform (orderly : link.Orderly) (action : Action) :
    link.opened ≤ (link.perform action).opened := by
  have change := change_perform orderly.supervised action
  generalize link.perform action = next at change ⊢
  cases change with
  | request request => cases request <;> simp
  | rest _ => exact Nat.le_refl _
  | move shape move =>
      cases move with
      | effort _ effort => cases effort <;> simp
      | farewell _ farewell => cases farewell <;> simp

/-- A connection that is open was open ever since it was opened. -/
theorem isOpen_of_perform (orderly : link.Orderly) (known : connection < link.opened)
    (isOpen : (link.perform action).IsOpen connection) : link.IsOpen connection := by
  have change := change_perform orderly.supervised action
  generalize link.perform action = next at change isOpen
  obtain ⟨connected, opened⟩ := isOpen
  unfold IsOpen
  cases change with
  | request request => cases request <;> simp_all
  | rest _ => exact ⟨connected, opened⟩
  | move shape move =>
      cases move with
      | effort _ effort =>
          cases effort with
          | openUp _ _ | strand _ _ =>
              have later : link.opened + 1 = connection + 1 := opened
              omega
          | _ => simp_all
      | farewell _ farewell => cases farewell <;> exact ⟨connected, opened⟩

theorem isOpen_of_run (sound : link.Sound) (known : connection < link.opened)
    {actions : List Action} (isOpen : (link.run actions).IsOpen connection) :
    link.IsOpen connection := by
  induction actions generalizing link with
  | nil => exact isOpen
  | cons action actions ih =>
      have grown := opened_le_perform sound.orderly action
      have later := ih (sound_perform sound action) (by omega) isOpen
      exact isOpen_of_perform sound.orderly known later

/-! ## What a link counts -/

/-- The counters of a link say what happened on its open connection. -/
structure Counted (past : List Beat) (link : Link) : Prop where
  sent : link.sentSinceTick = stirred false past
  idle : link.idle =
    if stirred false past then 0
    else link.plan.keepAliveInterval * lull (idleTicks false past)
  below : stirred false past = false → ∀ limit, link.plan.maxInactivity = some limit →
    0 < lull (idleTicks false past) →
      link.plan.keepAliveInterval * lull (idleTicks false past) < limit

/-- While the supervisor waits the queue is empty, unless the page has sent
something since the last tick. -/
def Swept (link : Link) : Prop :=
  ∀ {supervisor others connection due}, link.supervisors = supervisor :: others →
    supervisor.phase = .online connection due .idle → supervisor.dismissed = false →
      link.outbound ≠ [] → link.sentSinceTick = true

theorem Counted.congr (counted : Counted past link) (plan : next.plan = link.plan)
    (idle : next.idle = link.idle) (sent : next.sentSinceTick = link.sentSinceTick) :
    Counted past next := by
  refine ⟨?_, ?_, ?_⟩
  · rw [sent]
    exact counted.sent
  · rw [idle, plan]
    exact counted.idle
  · rw [plan]
    exact counted.below

theorem counted_flush (counted : Counted past link) (speaks : supervisor.dismissed = false)
    {due : Nat} : Counted past (link.flush supervisor others connection due) := by
  rw [flush_of_speaks speaks]
  exact counted.congr rfl rfl rfl

theorem swept_flush (speaks : supervisor.dismissed = false) {due : Nat} :
    (link.flush supervisor others connection due).Swept := by
  rw [flush_of_speaks speaks]
  intro first rest used later shape phase _ queued
  cases shape
  simp only [Phase.online.injEq, Stage.taking_eq_idle_iff] at phase
  exact absurd (congrArg List.tail phase.2.2) queued

theorem ticks_of_cons {due : Nat} (shape : link.supervisors = supervisor :: others)
    (phase : supervisor.phase = .online connection due .idle)
    (speaks : supervisor.dismissed = false) : link.ticks = decide (due ≤ link.now) := by
  obtain ⟨serial, dismissed, wasOpen, parting, current⟩ := supervisor
  simp only at phase speaks
  subst phase speaks
  simp [ticks, shape]

theorem ticks_of_writing {due : Nat} {frame : String}
    (shape : link.supervisors = supervisor :: others)
    (phase : supervisor.phase = .online connection due (.writing frame)) :
    link.ticks = false := by
  obtain ⟨serial, dismissed, wasOpen, parting, current⟩ := supervisor
  simp only at phase
  subst phase
  cases dismissed <;> simp [ticks, shape]

theorem counted_tick {due : Nat} (counted : Counted past link)
    (speaks : supervisor.dismissed = false)
    (kept : (link.tick supervisor others connection due).condition = .connected) :
    Counted (past ++ [.tick]) (link.tick supervisor others connection due) := by
  have stirs : stirred false (past ++ [.tick]) = false := stirred_concat ..
  unfold tick at kept ⊢
  cases sent : link.sentSinceTick with
  | true =>
      have before : stirred false past = true := by rw [← counted.sent, sent]
      have none : lull (idleTicks false (past ++ [.tick])) = 0 := by
        rw [idleTicks_concat_tick, before]
        exact lull_concat_false _
      have zero : link.idle = 0 := by simpa [before] using counted.idle
      apply counted_flush _ speaks
      refine ⟨by rw [stirs], ?_, ?_⟩
      · rw [stirs, none]
        simpa using zero
      · rw [none]
        simp
  | false =>
      have before : stirred false past = false := by rw [← counted.sent, sent]
      have more : lull (idleTicks false (past ++ [.tick])) =
          lull (idleTicks false past) + 1 := by
        rw [idleTicks_concat_tick, before]
        exact lull_concat_true _
      have idle : link.idle =
          link.plan.keepAliveInterval * lull (idleTicks false past) := by
        simpa [before] using counted.idle
      simp only [sent, Bool.false_eq_true, if_false] at kept ⊢
      split at kept
      · simp [suspend, proceed] at kept
      · next below =>
          rw [if_neg below]
          apply counted_flush _ speaks
          refine ⟨by simp [stirs, enqueue], ?_, ?_⟩
          · simp [stirs, enqueue, more, idle, Nat.mul_add]
          · intro _ limit limited _
            have above : ¬ limit ≤ link.idle + link.plan.keepAliveInterval := by
              simpa [exceeded, show link.plan.maxInactivity = some limit from limited]
                using below
            rw [more]
            show link.plan.keepAliveInterval * _ < limit
            rw [Nat.mul_add, ← idle]
            omega

theorem counted_idleStep {due : Nat} (counted : Counted past link) (swept : link.Swept)
    (shape : link.supervisors = supervisor :: others)
    (phase : supervisor.phase = .online connection due .idle)
    (speaks : supervisor.dismissed = false) (stimulus : Stimulus)
    (kept : (link.idleStep supervisor others connection due stimulus).condition
      = .connected) :
    Counted (past ++ (link.beatOf? (.react stimulus)).toList)
        (link.idleStep supervisor others connection due stimulus) ∧
      (link.idleStep supervisor others connection due stimulus).Swept := by
  unfold idleStep at kept ⊢
  simp only [speaks, Bool.false_eq_true, if_false] at kept ⊢
  cases stimulus with
  | handled =>
      have silent : link.beatOf? (.react .handled) = none := rfl
      rw [silent, Option.toList_none, List.append_nil]
      exact ⟨counted_flush counted speaks, swept_flush speaks⟩
  | readFailed error => simp [lose_of_speaks speaks] at kept
  | wake =>
      have silent : link.beatOf? (.react .wake) = none := rfl
      rw [silent, Option.toList_none, List.append_nil]
      simp only at kept ⊢
      split
      · have taken : Counted past { link with wakeUp := false } := counted.congr rfl rfl rfl
        exact ⟨counted_flush taken speaks, swept_flush speaks⟩
      · exact ⟨counted, swept⟩
  | tick =>
      have taken := ticks_of_cons shape phase speaks
      by_cases now : due ≤ link.now
      case neg => simpa [beatOf?, taken, now] using ⟨counted, swept⟩
      case pos =>
        simp only [beatOf?, taken, now, decide_true, if_true, Option.toList_some] at kept ⊢
        refine ⟨counted_tick counted speaks kept, ?_⟩
        unfold tick at kept ⊢
        simp only at kept ⊢
        split
        · exact swept_flush speaks
        · next quiet =>
            rw [if_neg quiet] at kept
            split at kept
            · simp [suspend, proceed] at kept
            · next below =>
                rw [if_neg below]
                exact swept_flush speaks
  | _ => simpa [beatOf?] using ⟨counted, swept⟩

theorem counted_writingStep {due : Nat} {frame : String} (counted : Counted past link)
    (swept : link.Swept) (shape : link.supervisors = supervisor :: others)
    (phase : supervisor.phase = .online connection due (.writing frame))
    (speaks : supervisor.dismissed = false) (stimulus : Stimulus)
    (kept : (link.writingStep supervisor others connection due frame stimulus).condition
      = .connected) :
    Counted (past ++ (link.beatOf? (.react stimulus)).toList)
        (link.writingStep supervisor others connection due frame stimulus) ∧
      (link.writingStep supervisor others connection due frame stimulus).Swept := by
  have silent : link.beatOf? (.react stimulus) = none := by
    cases stimulus <;> simp [beatOf?, ticks_of_writing shape phase]
  rw [silent, Option.toList_none, List.append_nil]
  unfold writingStep at kept ⊢
  cases stimulus with
  | wrote =>
      have written : Counted past (link.report (.wrote connection frame)) :=
        counted.congr rfl rfl rfl
      exact ⟨counted_flush written speaks, swept_flush speaks⟩
  | writeFailed error =>
      simp only [speaks, Bool.false_eq_true, if_false, lose_of_speaks speaks] at kept
      contradiction
  | _ => exact ⟨counted, swept⟩

/-- As long as a connection stays open its link counts what happens. -/
theorem counted_perform (sound : link.Sound) (isOpen : link.IsOpen connection)
    (counted : Counted past link) (swept : link.Swept)
    (still : (link.perform action).IsOpen connection) :
    Counted (past ++ (link.beatOf? action).toList) (link.perform action) ∧
      (link.perform action).Swept := by
  obtain ⟨supervisor, due, stage, shape, speaks, phase, working⟩ :=
    exists_of_isOpen sound isOpen
  cases action with
  | connect =>
      have serving : link.served = true := by simp [served, shape, speaks]
      have silent : link.beatOf? .connect = none := rfl
      rw [silent, Option.toList_none, List.append_nil, perform, connect_of_served serving]
      exact ⟨counted.congr rfl rfl rfl, swept⟩
  | close =>
      have away : (link.perform .close).condition = .disconnected := condition_close
      rw [still.1] at away
      contradiction
  | send frame =>
      have stirs : stirred false (past ++ [.sent]) = true := stirred_concat ..
      refine ⟨⟨?_, ?_, ?_⟩, ?_⟩
      · simp [beatOf?, stirs, perform, send, enqueue]
      · simp [beatOf?, stirs, perform, send, enqueue]
      · simp [beatOf?, stirs]
      · exact fun _ _ _ _ => rfl
  | elapse milliseconds =>
      have silent : link.beatOf? (.elapse milliseconds) = none := rfl
      rw [silent, Option.toList_none, List.append_nil]
      exact ⟨counted.congr rfl rfl rfl, swept⟩
  | react stimulus =>
      have reaction : link.perform (.react stimulus)
          = link.stepOf supervisor [] stimulus := by simp [perform, step, shape]
      rw [reaction] at still ⊢
      unfold stepOf at still ⊢
      rw [phase] at still ⊢
      cases stage with
      | idle => exact counted_idleStep counted swept shape phase speaks stimulus still.1
      | writing frame =>
          exact counted_writingStep counted swept shape phase speaks stimulus still.1
      | _ => simp [Stage.retires] at working

theorem counted_run (sound : link.Sound) (isOpen : link.IsOpen connection)
    (counted : Counted past link) (swept : link.Swept) {actions : List Action}
    (still : (link.run actions).IsOpen connection) :
    Counted (past ++ link.beats actions) (link.run actions) ∧
      (link.run actions).Swept := by
  induction actions generalizing link past with
  | nil => simpa [beats] using ⟨counted, swept⟩
  | cons action actions ih =>
      have kept := sound_perform sound action
      have known : connection < (link.perform action).opened := by
        have grown := opened_le_perform sound.orderly action
        have opened := isOpen.2
        omega
      have between := isOpen_of_run kept known still
      obtain ⟨counted, swept⟩ := counted_perform sound isOpen counted swept between
      have rest := ih kept between counted swept still
      rw [List.append_assoc] at rest
      exact rest

theorem counted_opens (sound : link.Sound) (opens : link.Opens connection) :
    Counted [] (link.step .accepted) ∧ (link.step .accepted).Swept := by
  obtain ⟨fresh, _, opened⟩ := opens
  have change := change_perform sound.orderly.supervised (.react .accepted)
  simp only [perform] at change
  generalize link.step .accepted = next at change opened ⊢
  cases change with
  | rest _ => omega
  | request request => cases request
  | move shape move =>
      cases move with
      | farewell _ farewell => cases farewell <;> simp_all
      | effort speaks effort =>
          cases effort with
          | openUp _ _ =>
              refine ⟨⟨rfl, rfl, by simp [lull, idleTicks]⟩, ?_⟩
              intro first rest used due leading phase _ queued
              cases leading
              simp only [Phase.online.injEq, Stage.taking_eq_idle_iff] at phase
              exact absurd (congrArg List.tail phase.2.2) queued
          | strand interval _ => exact absurd sound.orderly.interval (by omega)
          | _ => simp_all

/-! ## What a tick does -/

theorem exists_of_ticks (sound : link.Sound) (isOpen : link.IsOpen connection)
    (ticks : link.ticks = true) :
    ∃ supervisor due, link.supervisors = [supervisor] ∧
      supervisor.dismissed = false ∧ supervisor.phase = .online connection due .idle ∧
      supervisor.parting = [] ∧
      link.step .tick = link.tick supervisor [] connection due := by
  obtain ⟨supervisor, due, stage, shape, speaks, phase, working⟩ :=
    exists_of_isOpen sound isOpen
  cases stage with
  | idle =>
      have now : due ≤ link.now := by
        rw [ticks_of_cons shape phase speaks] at ticks
        simpa using ticks
      have fits := sound.orderly.fits shape
      simp only [Supervisor.Fits, phase, speaks, Bool.false_eq_true, if_false] at fits
      refine ⟨supervisor, due, shape, speaks, phase, fits.1, ?_⟩
      simp [step, shape, stepOf, phase, idleStep, speaks, now]
  | writing frame =>
      rw [ticks_of_writing shape phase] at ticks
      contradiction
  | _ => simp [Stage.retires] at working

theorem held_of_idle {due : Nat} (shape : link.supervisors = [supervisor])
    (phase : supervisor.phase = .online connection due .idle)
    (nothing : supervisor.parting = []) : link.held = [] := by
  simp [held, shape, Supervisor.frames, phase, Stage.frames, nothing]

/-- Taking the next frame from the queue leaves it before those that are still queued. -/
theorem held_append_outbound_flush {due : Nat} (speaks : supervisor.dismissed = false)
    (nothing : supervisor.parting = []) :
    (link.flush supervisor [] connection due).held ++
        (link.flush supervisor [] connection due).outbound = link.outbound := by
  rw [flush_of_speaks speaks]
  simp [held, Supervisor.frames, nothing]

theorem tick_of_sent {due : Nat} (speaks : supervisor.dismissed = false)
    (nothing : supervisor.parting = []) (sent : link.sentSinceTick = true) :
    let next := link.tick supervisor [] connection due
    next.held ++ next.outbound = link.outbound ∧ next.journal = link.journal ∧
      (link.IsOpen connection → next.IsOpen connection) := by
  rw [tick, if_pos sent]
  refine ⟨held_append_outbound_flush speaks nothing, ?_⟩
  rw [flush_of_speaks speaks]
  exact ⟨rfl, id⟩

theorem tick_of_idle {due : Nat} (speaks : supervisor.dismissed = false)
    (nothing : supervisor.parting = []) (quiet : link.sentSinceTick = false)
    (below : { link with idle := link.idle + link.plan.keepAliveInterval }.exceeded = false) :
    let next := link.tick supervisor [] connection due
    next.held ++ next.outbound = link.outbound ++ [Notification.keepAlive.frame] ∧
      next.journal = link.journal ++ [.enqueued Notification.keepAlive.frame] ∧
      (link.IsOpen connection → next.IsOpen connection) := by
  rw [tick, if_neg (by simp [quiet])]
  simp only
  rw [if_neg (by simp [below])]
  refine ⟨held_append_outbound_flush speaks nothing, ?_⟩
  rw [flush_of_speaks speaks]
  exact ⟨rfl, id⟩

theorem tick_of_exceeded {due : Nat} (quiet : link.sentSinceTick = false)
    (above : { link with idle := link.idle + link.plan.keepAliveInterval }.exceeded = true) :
    link.tick supervisor others connection due =
      { link with
        requested := false
        condition := .disconnected
        idle := link.idle + link.plan.keepAliveInterval
        supervisors :=
          { supervisor with
            dismissed := true
            phase := .online connection (link.nextTick due) .suspending } :: others
        journal := link.journal ++
          [.incident (.suspended link.plan.session), .event .sessionSuspended] } := by
  rw [tick, if_neg (by simp [quiet])]
  simp only
  rw [if_pos above]
  simp [suspend, proceed, report]

theorem exceeded_tick_iff (counted : Counted past link)
    (positive : 0 < link.plan.keepAliveInterval) (quiet : stirred false past = false) :
    { link with idle := link.idle + link.plan.keepAliveInterval }.exceeded = true ↔
      tickLimit link.plan = some (lull (idleTicks false (past ++ [.tick]))) := by
  have more : lull (idleTicks false (past ++ [.tick])) =
      lull (idleTicks false past) + 1 := by
    rw [idleTicks_concat_tick, quiet]
    exact lull_concat_true _
  have idle : link.idle =
      link.plan.keepAliveInterval * lull (idleTicks false past) := by
    simpa [quiet] using counted.idle
  unfold exceeded tickLimit
  cases limited : link.plan.maxInactivity with
  | none => simp
  | some limit =>
      have reached := le_mul_succ_iff positive (counted.below quiet limit limited)
      rw [Nat.mul_add, Nat.mul_one, ← idle, ← more] at reached
      simp [reached, eq_comm]

/-! ## After a suspension -/

/-- Whether a report says that a connection is attempted or opened. -/
def Report.isAttempt : Report → Bool
  | .attempting _ | .opened _ => true
  | _ => false

/-- The end is not announced on a connection, and never will be. -/
structure Unannounced (connection : Nat) (link : Link) : Prop where
  known : connection < link.opened
  shut : ¬ link.IsOpen connection
  stays : ¬ link.Departing connection
  silent : ∀ frame, .announced connection frame ∉ link.journal

theorem unannounced_perform (sound : link.Sound)
    (unannounced : Unannounced connection link) (action : Action) :
    Unannounced connection (link.perform action) := by
  have grown := opened_le_perform sound.orderly action
  refine ⟨Nat.lt_of_lt_of_le unannounced.known grown, ?_, ?_, ?_⟩
  · intro isOpen
    exact unannounced.shut (isOpen_of_perform sound.orderly unannounced.known isOpen)
  · intro departing
    rcases departing_perform sound departing with before | ⟨_, isOpen⟩
    · exact unannounced.stays before
    · exact unannounced.shut isOpen
  · intro frame announced
    rcases announced_perform sound announced with before | ⟨_, departing, _⟩
    · exact unannounced.silent frame before
    · exact unannounced.stays departing

theorem unannounced_run (sound : link.Sound) (unannounced : Unannounced connection link)
    (later : List Action) : Unannounced connection (link.run later) := by
  induction later generalizing link with
  | nil => exact unannounced
  | cons action later ih =>
      apply ih (sound_perform sound action)
      exact unannounced_perform sound unannounced action

theorem attempts_perform (orderly : link.Orderly) (unserved : link.served = false)
    (quiet : action ≠ .connect) :
    (link.perform action).journal.filter Report.isAttempt =
      link.journal.filter Report.isAttempt := by
  have change := change_perform orderly.supervised action
  generalize link.perform action = next at change ⊢
  cases change with
  | rest _ => rfl
  | request request =>
      cases request with
      | start _ => exact absurd rfl quiet
      | _ => simp [Report.isAttempt]
  | move shape move =>
      cases move with
      | effort speaks _ => simp [served, shape, speaks] at unserved
      | farewell _ farewell => cases farewell <;> simp [Report.isAttempt]

theorem attempts_run (orderly : link.Orderly) (unserved : link.served = false)
    {later : List Action} (quiet : .connect ∉ later) :
    (link.run later).journal.filter Report.isAttempt =
      link.journal.filter Report.isAttempt := by
  induction later generalizing link with
  | nil => rfl
  | cons action later ih =>
      simp only [List.mem_cons, not_or] at quiet
      have other : action ≠ .connect := Ne.symm quiet.1
      have still := served_perform orderly unserved other
      rw [run_cons, ih (orderly_perform orderly action) still quiet.2]
      exact attempts_perform orderly unserved other

/-- A tick suspends the session on a connection: nothing waits to be written,
nothing is enqueued, the link is not wanted any more, and never is the end
announced on the connection, nor another attempted before the page asks. -/
structure Suspends (connection : Nat) (link next : Link) : Prop where
  outbound : link.outbound = []
  held : link.held = []
  emptied : next.outbound = []
  released : next.held = []
  journal : next.journal = link.journal ++
    [.incident (.suspended link.plan.session), .event .sessionSuspended]
  requested : next.requested = false
  condition : next.condition = .disconnected
  unannounced : ∀ later frame, .announced connection frame ∉ (next.run later).journal
  rest : ∀ later, .connect ∉ later →
    (next.run later).condition = .disconnected ∧ (next.run later).requested = false ∧
      (next.run later).journal.filter Report.isAttempt =
        next.journal.filter Report.isAttempt

theorem suspends_tick {due : Nat} (sound : link.Sound) (isOpen : link.IsOpen connection)
    (swept : link.Swept) (shape : link.supervisors = [supervisor])
    (speaks : supervisor.dismissed = false)
    (phase : supervisor.phase = .online connection due .idle)
    (nothing : supervisor.parting = [])
    (reaction : link.step .tick = link.tick supervisor [] connection due)
    (silent : ∀ frame, .announced connection frame ∉ link.journal)
    (quiet : link.sentSinceTick = false)
    (above : { link with idle := link.idle + link.plan.keepAliveInterval }.exceeded = true) :
    Suspends connection link (link.step .tick) := by
  have kept : (link.step .tick).Sound := sound_perform sound (.react .tick)
  have empty : link.outbound = [] := by
    apply Decidable.byContradiction
    intro queued
    have sent := swept shape phase speaks queued
    rw [quiet] at sent
    contradiction
  have held : link.held = [] := held_of_idle shape phase nothing
  rw [reaction, tick_of_exceeded quiet above] at kept ⊢
  have unannounced : Unannounced connection (link.tick supervisor [] connection due) := by
    rw [tick_of_exceeded quiet above]
    refine ⟨by simp [isOpen.2], by simp [IsOpen], ?_, by simpa using silent⟩
    rintro ⟨first, rest, _, stage, leading, leaving, _, other⟩
    cases leading
    cases leaving
    exact other rfl
  rw [tick_of_exceeded quiet above] at unannounced
  refine ⟨empty, held, empty, ?_, rfl, rfl, rfl, ?_, ?_⟩
  · simp [Link.held, Supervisor.frames, Stage.frames, nothing]
  · intro later
    exact (unannounced_run kept unannounced later).silent
  · intro later calm
    obtain ⟨away, unwanted⟩ := rest_of_unserved kept (by simp [served]) calm
    exact ⟨away, unwanted, attempts_run kept.orderly (by simp [served]) calm⟩

/-- What a tick does depends on what happened on the connection before. -/
theorem step_tick_of_counted (sound : link.Sound) (isOpen : link.IsOpen connection)
    (counted : Counted past link) (swept : link.Swept) (due : link.ticks = true)
    (silent : ∀ frame, .announced connection frame ∉ link.journal) :
    let next := link.step .tick
    let row := lull (idleTicks false (past ++ [.tick]))
    (stirred false past = true →
      next.held ++ next.outbound = link.held ++ link.outbound ∧
        next.journal = link.journal ∧ next.IsOpen connection) ∧
    (stirred false past = false → tickLimit link.plan = some row →
      Suspends connection link next) ∧
    (stirred false past = false → tickLimit link.plan ≠ some row →
      next.held ++ next.outbound =
          link.held ++ link.outbound ++ [Notification.keepAlive.frame] ∧
        next.journal = link.journal ++ [.enqueued Notification.keepAlive.frame] ∧
        next.IsOpen connection) := by
  intro next row
  obtain ⟨supervisor, due, shape, speaks, phase, nothing, reaction⟩ :=
    exists_of_ticks sound isOpen due
  have ticked : next = link.tick supervisor [] connection due := reaction
  have free : link.held = [] := held_of_idle shape phase nothing
  rw [← counted.sent, ticked, free, List.nil_append]
  have reached := exceeded_tick_iff counted sound.orderly.interval
  rw [← counted.sent] at reached
  refine ⟨?_, ?_, ?_⟩
  · intro sent
    obtain ⟨queue, journal, stays⟩ := tick_of_sent speaks nothing sent
    exact ⟨queue, journal, stays isOpen⟩
  · intro quiet limited
    have above := (reached quiet).mpr limited
    rw [← reaction]
    exact suspends_tick sound isOpen swept shape speaks phase nothing reaction silent quiet above
  · intro quiet unlimited
    have below := Bool.eq_false_iff.mpr fun above => unlimited ((reached quiet).mp above)
    obtain ⟨queue, journal, stays⟩ := tick_of_idle speaks nothing quiet below
    exact ⟨queue, journal, stays isOpen⟩

/-! ## Whole runs -/

/-- What a tick does on a connection that is open since it was accepted.  If the
page sent something since the tick before, or since the opening, the frames still
to be written stay the same and the connection stays open.  Otherwise one reminder
joins them at their end and the connection stays open, except if it is the idle
tick that completes the row: that one suspends the session. -/
theorem step_tick_of_opens {plan : LinkPlan}
    (interval : 0 < plan.keepAliveInterval) (before after : List Action)
    (connection : Nat) :
    let start := ({ plan } : Link).run before
    let opening := start.step .accepted
    let link := opening.run after
    let ticks := idleTicks false (opening.beats after ++ [.tick])
    let next := link.step .tick
    start.Opens connection → link.IsOpen connection → link.ticks = true →
      (ticks.getLast? = some false →
        next.held ++ next.outbound = link.held ++ link.outbound ∧
          next.journal = link.journal ∧ next.IsOpen connection) ∧
      (ticks.getLast? = some true → tickLimit plan = some (lull ticks) →
        Suspends connection link next) ∧
      (ticks.getLast? = some true → tickLimit plan ≠ some (lull ticks) →
        next.held ++ next.outbound =
            link.held ++ link.outbound ++ [Notification.keepAlive.frame] ∧
          next.journal = link.journal ++ [.enqueued Notification.keepAlive.frame] ∧
          next.IsOpen connection) := by
  intro start opening link ticks next opens isOpen due
  have whole : link = ({ plan } : Link).run (before ++ .react .accepted :: after) := by
    rw [run_append]
    rfl
  have sound : link.Sound := whole ▸ sound_run interval _
  have same : link.plan = plan := whole ▸ (manned_start plan).plan_run _
  have silent : ∀ frame, .announced connection frame ∉ link.journal :=
    whole ▸ not_announced_of_isOpen interval (whole ▸ isOpen)
  have begun : start.Sound := sound_run interval before
  have accepted : opening.Sound := sound_perform begun (.react .accepted)
  obtain ⟨counted, swept⟩ := counted_opens begun opens
  obtain ⟨counted, swept⟩ := counted_run accepted opens.2 counted swept isOpen
  have last : ticks.getLast? = some (!stirred false (opening.beats after)) := by
    simp [ticks, idleTicks_concat_tick]
  have done := step_tick_of_counted sound isOpen counted swept due silent
  rw [same] at done
  rw [last]
  simpa using done

/-- With a limit of three intervals the third idle tick in a row suspends the
session.  The first tick is idle and reminds the portal, the second is not, as the
page has sent something that is still queued; so the row begins after it. -/
theorem step_tick_of_opens_third :
    let plan : LinkPlan := ⟨"ws://portal/S1", ⟨"S1"⟩, 1000, 10, some 30⟩
    let before : List Action := [.connect, .react .turn]
    let wait : List Action := [.elapse 10, .react .tick]
    let untilFirst : List Action := [.elapse 10]
    let untilSecond : List Action := wait ++ [.react .wrote, .send "a", .elapse 10]
    let untilLast : List Action :=
      untilSecond ++ [.react .tick, .react .wrote] ++ wait ++ [.react .wrote] ++ wait ++
        [.react .wrote, .elapse 10]
    let start := ({ plan } : Link).run before
    let opening := start.step .accepted
    let first := opening.run untilFirst
    let second := opening.run untilSecond
    let last := opening.run untilLast
    0 < plan.keepAliveInterval ∧ start.Opens 0 ∧
      (∀ link ∈ [first, second, last], link.IsOpen 0 ∧ link.ticks = true) ∧
      idleTicks false (opening.beats untilLast ++ [.tick]) = [true, false, true, true, true] ∧
      (first.step .tick).held ++ (first.step .tick).outbound = [Notification.keepAlive.frame] ∧
      second.outbound = ["a"] ∧
      (second.step .tick).held ++ (second.step .tick).outbound = ["a"] ∧
      Suspends 0 last (last.step .tick) := by
  intro plan before wait untilFirst untilSecond untilLast start opening first second last
  have interval : 0 < plan.keepAliveInterval := by decide
  have opens : start.Opens 0 := by decide
  have due : ∀ link ∈ [first, second, last], link.IsOpen 0 ∧ link.ticks = true := by
    decide +kernel
  have ticks : idleTicks false (opening.beats untilLast ++ [.tick]) =
      [true, false, true, true, true] := by decide +kernel
  obtain ⟨firstOpen, firstDue⟩ := due first (by simp)
  obtain ⟨secondOpen, secondDue⟩ := due second (by simp)
  obtain ⟨lastOpen, lastDue⟩ := due last (by simp)
  obtain ⟨-, -, reminds⟩ :=
    step_tick_of_opens interval before untilFirst 0 opens firstOpen firstDue
  obtain ⟨keeps, -, -⟩ :=
    step_tick_of_opens interval before untilSecond 0 opens secondOpen secondDue
  obtain ⟨-, suspends, -⟩ :=
    step_tick_of_opens interval before untilLast 0 opens lastOpen lastDue
  have queue : second.held ++ second.outbound = ["a"] := by decide +kernel
  refine ⟨interval, opens, due, ticks, ?_, by decide +kernel, ?_, ?_⟩
  · exact (reminds (by decide +kernel) (by decide +kernel)).1.trans (by decide +kernel)
  · exact (keeps (by decide +kernel)).1.trans queue
  · exact suspends (by rw [ticks]; rfl) (by rw [ticks]; decide)

end PageSession.Link
