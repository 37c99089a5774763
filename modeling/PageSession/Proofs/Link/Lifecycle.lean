import PageSession.Proofs.Link.Roster

/-!
# The lives of supervisors and connections

A supervisor is on record exactly while a connection is requested, and one that
is off record leaves the state of the link alone.  Supervisors end in the order
of their start, connections are released in the order in which they were
opened, and of both at most one is at work.

Closing the link and starting a supervisor begin a new generation.  A supervisor
of an older one is off record.
-/

namespace PageSession.Link

/-! ## Views of the journal -/

def Report.endedSerial? : Report → Option Nat
  | .ended serial => some serial
  | _ => none

def Report.openedConnection? : Report → Option Nat
  | .opened connection => some connection
  | _ => none

def Report.releasedConnection? : Report → Option Nat
  | .released connection => some connection
  | _ => none

def endings (link : Link) : List Nat :=
  link.journal.filterMap Report.endedSerial?

def serials (link : Link) : List Nat :=
  link.supervisors.map (·.serial)

def openings (link : Link) : List Nat :=
  link.journal.filterMap Report.openedConnection?

def releases (link : Link) : List Nat :=
  link.journal.filterMap Report.releasedConnection?

/-- The connections that supervisors work with. -/
def connections (link : Link) : List Nat :=
  link.supervisors.filterMap (·.phase.connection?)

/-- The connections that were opened and not released. -/
def afloat (link : Link) : List Nat :=
  link.openings.filter fun connection => !link.releases.contains connection

/-- The supervisor on record: the one that speaks for the link. -/
def speaker (link : Link) : Option Supervisor :=
  link.supervisors.find? (!·.dismissed)

variable {link next : Link} {supervisor : Supervisor} {others : List Supervisor}
  {stimulus : Stimulus} {action : Action}

theorem mem_endings {serial : Nat} :
    serial ∈ link.endings ↔ .ended serial ∈ link.journal := by
  unfold endings
  rw [List.mem_filterMap]
  constructor
  · rintro ⟨entry, member, view⟩
    cases entry <;> simp_all [Report.endedSerial?]
  · intro member
    exact ⟨.ended serial, member, rfl⟩

theorem mem_releases {connection : Nat} :
    connection ∈ link.releases ↔ .released connection ∈ link.journal := by
  unfold releases
  rw [List.mem_filterMap]
  constructor
  · rintro ⟨entry, member, view⟩
    cases entry <;> simp_all [Report.releasedConnection?]
  · intro member
    exact ⟨.released connection, member, rfl⟩

theorem isSome_speaker : link.speaker.isSome = link.served := by
  rw [Bool.eq_iff_iff, speaker, served, List.find?_isSome, List.any_eq_true]

/-! ## Serials and connections are accounted for -/

/-- Those that ended and those that have not are all that were started, and the
same holds of connections. -/
structure Accounted (link : Link) : Prop where
  serials : link.endings ++ link.serials = List.range link.started
  openings : link.openings = List.range link.opened
  connections : link.releases ++ link.connections = List.range link.opened

theorem accounted_start (plan : LinkPlan) : ({ plan } : Link).Accounted :=
  ⟨rfl, rfl, rfl⟩

theorem offline_of_leads (leads : supervisor.Leads others) :
    others.filterMap (·.phase.connection?) = [] := by
  apply List.filterMap_eq_nil_iff.mpr
  intro other member
  simp [(leads.behind other member).1]

theorem serials_move (shape : link.supervisors = supervisor :: others)
    (move : Move link supervisor others stimulus next) :
    next.endings ++ next.serials = link.endings ++ link.serials := by
  cases move with
  | effort _ effort =>
      cases effort with
      | stay => rfl
      | _ => simp [endings, serials, shape, List.filterMap_cons,
          Report.endedSerial?]
  | farewell _ farewell =>
      cases farewell with
      | stay => rfl
      | _ => simp [endings, serials, shape, List.filterMap_cons,
          Report.endedSerial?]

theorem connections_of_cons (shape : link.supervisors = supervisor :: others)
    (leads : supervisor.Leads others) :
    link.connections = supervisor.phase.connection?.toList := by
  have idle := offline_of_leads leads
  cases phase : supervisor.phase.connection? <;>
    simp [connections, shape, phase, idle]

/-- A move opens at most one connection, and then there was none in use. -/
theorem connections_move (shape : link.supervisors = supervisor :: others)
    (leads : supervisor.Leads others)
    (move : Move link supervisor others stimulus next) :
    ∃ fresh, List.range next.opened = List.range link.opened ++ fresh ∧
      next.openings = link.openings ++ fresh ∧
      next.releases ++ next.connections =
        link.releases ++ link.connections ++ fresh := by
  have idle := offline_of_leads leads
  have before := connections_of_cons shape leads
  -- Only opening brings a connection in.  Any other move keeps the one in use,
  -- or takes it from those in use to those released.
  cases move with
  | effort _ effort =>
      cases effort with
      | stay => exact ⟨[], by simp⟩
      | openUp _ phase =>
          refine ⟨[link.opened], List.range_succ, ?_, ?_⟩
          · simp [openings, List.filterMap_cons, Report.openedConnection?]
          · rw [before]
            simp [connections, releases, idle, phase, List.filterMap_cons,
              Report.releasedConnection?]
      | strand _ phase =>
          refine ⟨[link.opened], List.range_succ, ?_, ?_⟩
          · simp [openings, List.filterMap_cons, Report.openedConnection?]
          · rw [before]
            simp [connections, releases, idle, phase, List.filterMap_cons,
              Report.releasedConnection?]
      | _ =>
          refine ⟨[], by simp, ?_, ?_⟩
          · simp [openings, List.filterMap_cons, Report.openedConnection?]
          · rw [before]
            simp_all [connections, releases, List.filterMap_cons,
              Report.releasedConnection?]
  | farewell _ farewell =>
      cases farewell with
      | stay => exact ⟨[], by simp⟩
      | _ =>
          refine ⟨[], by simp, ?_, ?_⟩
          · simp [openings, List.filterMap_cons, Report.openedConnection?]
          · rw [before]
            simp_all [connections, releases, List.filterMap_cons,
              Report.releasedConnection?]

theorem accounted_request (orderly : link.Orderly)
    (accounted : link.Accounted) (request : Request link action next) :
    next.Accounted := by
  obtain ⟨serialsBefore, openingsBefore, connectionsBefore⟩ := accounted
  cases request with
  | start unserved =>
      refine ⟨?_, ?_, ?_⟩
      · rw [List.range_succ, ← serialsBefore]
        simp [endings, serials, List.filterMap_cons, Report.endedSerial?]
      · simpa [openings, List.filterMap_cons, Report.openedConnection?] using
          openingsBefore
      · simpa [releases, connections, List.filterMap_cons,
          Report.releasedConnection?] using connectionsBefore
  | close serial serving =>
      rw [filter_stranded orderly]
      refine ⟨?_, ?_, ?_⟩
      · simpa [endings, serials, List.filterMap_cons, Report.endedSerial?,
          Function.comp_def] using serialsBefore
      · simpa [openings, List.filterMap_cons, Report.openedConnection?] using
          openingsBefore
      · simpa [releases, connections, List.filterMap_cons, List.filterMap_map,
          Function.comp_def, Report.releasedConnection?] using connectionsBefore
  | send frame =>
      refine ⟨?_, ?_, ?_⟩
      · simpa [endings, serials, List.filterMap_cons, Report.endedSerial?] using
          serialsBefore
      · simpa [openings, List.filterMap_cons, Report.openedConnection?] using
          openingsBefore
      · simpa [releases, connections, List.filterMap_cons,
          Report.releasedConnection?] using connectionsBefore
  | _ => exact ⟨serialsBefore, openingsBefore, connectionsBefore⟩

theorem accounted_move (accounted : link.Accounted)
    (shape : link.supervisors = supervisor :: others)
    (leads : supervisor.Leads others)
    (move : Move link supervisor others stimulus next) : next.Accounted := by
  obtain ⟨fresh, opened, openings, connections⟩ :=
    connections_move shape leads move
  refine ⟨?_, ?_, ?_⟩
  · rw [serials_move shape move, started_move move, accounted.serials]
  · rw [openings, opened, accounted.openings]
  · rw [connections, opened, accounted.connections]

theorem accounted_perform (orderly : link.Orderly) (accounted : link.Accounted)
    (action : Action) : (link.perform action).Accounted := by
  have change := change_perform orderly.supervised action
  generalize link.perform action = next at change ⊢
  cases change with
  | request request => exact accounted_request orderly accounted request
  | move shape move =>
      exact accounted_move accounted shape (orderly.leads shape) move
  | rest _ => exact accounted

/-- Nobody works with a connection that was released. -/
theorem not_mem_connections (accounted : link.Accounted) {connection : Nat}
    (released : connection ∈ link.releases) : connection ∉ link.connections := by
  intro used
  have once : (link.releases ++ link.connections).Nodup := by
    rw [accounted.connections]
    exact List.nodup_range
  exact (List.nodup_append.mp once).2.2 connection released connection used rfl

/-! ## Those off record -/

/-- What a supervisor leaves alone that is off record: where the link stands,
whether it is wanted, who is on record, and how long the page was idle.  Of the
queue it takes nothing; it may put back what it holds. -/
structure Aside (supervisor : Supervisor) (link next : Link) : Prop where
  condition : next.condition = link.condition
  requested : next.requested = link.requested
  speaker : next.speaker = link.speaker
  idle : next.idle = link.idle
  sentSinceTick : next.sentSinceTick = link.sentSinceTick
  outbound : next.outbound = link.outbound ∨
    next.outbound = supervisor.frames ++ link.outbound

theorem frames_of_offline (offline : supervisor.phase.connection? = none) :
    supervisor.frames = supervisor.parting := by
  unfold Supervisor.frames
  cases phase : supervisor.phase <;> simp_all

theorem aside_farewell (shape : link.supervisors = supervisor :: others)
    (fits : supervisor.Fits link) (dismissed : supervisor.dismissed = true)
    (farewell : Farewell link supervisor others stimulus next) :
    Aside supervisor link next := by
  -- Whoever is on record stands behind a dismissed first supervisor, so nothing
  -- changes when that one ends.
  have before : link.speaker = others.find? (!·.dismissed) := by
    simp [speaker, shape, dismissed]
  cases farewell with
  | stay => exact ⟨rfl, rfl, rfl, rfl, rfl, .inl rfl⟩
  | giveUp offline =>
      have held := frames_of_offline offline
      exact ⟨rfl, rfl, before.symm, rfl, rfl, .inr (by rw [held])⟩
  | @breakOff _ _ frame error _ phase =>
      have held : supervisor.frames = frame :: supervisor.parting := by
        simp [Supervisor.frames, phase, Stage.frames]
      exact ⟨rfl, rfl, before.symm, rfl, rfl, .inr (by rw [held])⟩
  | @abandon _ _ frame rest error _ phase =>
      have nothing := (fits_of_retires fits phase rfl).2.1
      have held : supervisor.frames = frame :: rest := by
        simp [Supervisor.frames, phase, Stage.frames, nothing]
      exact ⟨rfl, rfl, before.symm, rfl, rfl, .inr (by rw [held])⟩
  | release phase silent =>
      have held : supervisor.frames = supervisor.parting := by
        rcases silent with rfl | rfl <;>
          simp [Supervisor.frames, phase, Stage.frames]
      exact ⟨rfl, rfl, before.symm, rfl, rfl, .inr (by rw [held])⟩
  | _ =>
      exact ⟨rfl, rfl, by simp [speaker, shape, dismissed], rfl, rfl, .inl rfl⟩

theorem recorded_perform (orderly : link.Orderly) (recorded : link.Recorded)
    (action : Action) : (link.perform action).Recorded := by
  have change := change_perform orderly.supervised action
  generalize link.perform action = next at change ⊢
  cases change with
  | request request => exact recorded_request recorded request
  | move shape move =>
      have alone := (orderly.leads shape).alone_of_not_dismissed
      exact recorded_move recorded shape alone move
  | rest _ => exact recorded

/-! ## Generations -/

/-- Whether an action begins a new generation. -/
def begins (link : Link) : Action → Bool
  | .connect => !link.served
  | .close => true
  | _ => false

def generation (link : Link) : List Action → Nat
  | [] => 0
  | action :: actions =>
      (if link.begins action then 1 else 0) +
        (link.perform action).generation actions

/-- A supervisor is of an older generation than the one that some actions lead
to. -/
def Superseded (link : Link) (actions : List Action) (serial : Nat) : Prop :=
  ∃ before after, actions = before ++ after ∧
    serial < (link.run before).started ∧ 0 < (link.run before).generation after

/-- All supervisors below some serial are off record. -/
def Retired (link : Link) (bound : Nat) : Prop :=
  ∀ supervisor ∈ link.supervisors,
    supervisor.serial < bound → supervisor.dismissed = true

theorem started_le_perform
    (supervised : ∀ {supervisor others},
      link.supervisors = supervisor :: others → Supervised supervisor)
    (action : Action) : link.started ≤ (link.perform action).started := by
  have change := change_perform supervised action
  generalize link.perform action = next at change ⊢
  cases change with
  | request request => cases request <;> simp
  | move _ move => exact Nat.le_of_eq (started_move move).symm
  | rest _ => exact Nat.le_refl _

theorem retired_request {bound : Nat} (retired : link.Retired bound)
    (old : bound ≤ link.started) (request : Request link action next) :
    next.Retired bound := by
  cases request with
  | start unserved =>
      intro other member below
      rcases List.mem_append.mp member with member | newcomer
      · exact retired other member below
      · rw [List.mem_singleton.mp newcomer] at below
        exact absurd below (Nat.not_lt.mpr old)
  | close serial serving =>
      intro other member _
      obtain ⟨source, _, rfl⟩ := List.mem_map.mp member
      exact dismissed_dismiss _ source
  | _ => exact retired

theorem retired_move {bound : Nat} (retired : link.Retired bound)
    (shape : link.supervisors = supervisor :: others)
    (move : Move link supervisor others stimulus next) : next.Retired bound := by
  unfold Retired at retired ⊢
  simp only [shape, List.forall_mem_cons] at retired
  obtain ⟨first, rest⟩ := retired
  cases move with
  | effort speaks effort =>
      cases effort <;> simp_all
  | farewell dismissed farewell =>
      cases farewell <;> simp_all

theorem retired_perform {bound : Nat}
    (supervised : ∀ {supervisor others},
      link.supervisors = supervisor :: others → Supervised supervisor)
    (retired : link.Retired bound) (old : bound ≤ link.started)
    (action : Action) : (link.perform action).Retired bound := by
  have change := change_perform supervised action
  generalize link.perform action = next at change ⊢
  cases change with
  | request request => exact retired_request retired old request
  | move shape move => exact retired_move retired shape move
  | rest _ => exact retired

/-- When a generation begins, those of the one before go off record. -/
theorem retired_of_begins {action : Action} (starts : link.begins action = true) :
    (link.perform action).Retired link.started := by
  cases action with
  | connect =>
      have unserved : link.served = false := by simpa [begins] using starts
      have dismissed := served_eq_false_iff.mp unserved
      intro other member below
      rw [perform, supervisors_connect_of_unserved unserved] at member
      rcases List.mem_append.mp member with member | newcomer
      · exact dismissed other member
      · rw [List.mem_singleton.mp newcomer] at below
        exact absurd below (Nat.lt_irrefl _)
  | close =>
      intro other member _
      exact served_eq_false_iff.mp served_close other member
  | send frame => simp [begins] at starts
  | elapse milliseconds => simp [begins] at starts
  | react stimulus => simp [begins] at starts

/-- A supervisor stays off record once a generation has begun since its start. -/
theorem retired_run {bound : Nat} (manned : link.Manned)
    (old : bound ≤ link.started) (actions : List Action)
    (retired : link.Retired bound ∨ 0 < link.generation actions) :
    (link.run actions).Retired bound := by
  -- Either those below the bound are off record already, or a generation is
  -- still to begin: the action that begins it turns the second into the first.
  induction actions generalizing link with
  | nil => simpa [generation] using retired
  | cons action actions induction =>
      have grown := started_le_perform manned.first action
      apply induction (manned_perform manned action) (Nat.le_trans old grown)
      cases starts : link.begins action with
      | true =>
          refine .inl fun other member below => ?_
          exact retired_of_begins starts other member
            (Nat.lt_of_lt_of_le below old)
      | false =>
          rcases retired with retired | later
          · exact .inl (retired_perform manned.first retired old action)
          · exact .inr (by simpa [generation, starts] using later)

theorem dismissed_of_superseded {actions : List Action} (manned : link.Manned)
    (member : supervisor ∈ (link.run actions).supervisors)
    (superseded : link.Superseded actions supervisor.serial) :
    supervisor.dismissed = true := by
  obtain ⟨before, after, rfl, started, begun⟩ := superseded
  rw [run_append] at member
  exact retired_run (manned.run before) (Nat.le_refl _) after (.inr begun)
    supervisor member started

/-! ## Whole runs -/

/-- The supervisors take turns, and they and the connections are accounted for
and on record as they should be. -/
structure Sound (link : Link) : Prop where
  orderly : link.Orderly
  accounted : link.Accounted
  recorded : link.Recorded

theorem sound_perform (sound : link.Sound) (action : Action) :
    (link.perform action).Sound :=
  ⟨orderly_perform sound.orderly action,
    accounted_perform sound.orderly sound.accounted action,
    recorded_perform sound.orderly sound.recorded action⟩

theorem Sound.run (sound : link.Sound) (actions : List Action) :
    (link.run actions).Sound :=
  run_induction (motive := Sound) (fun _ action sound => sound_perform sound action)
    sound actions

theorem sound_run {plan : LinkPlan} (interval : 0 < plan.keepAliveInterval)
    (actions : List Action) : (({ plan } : Link).run actions).Sound :=
  Sound.run ⟨orderly_start interval, accounted_start plan, recorded_start plan⟩
    actions

/-- The connections afloat are those that supervisors work with. -/
theorem afloat_eq_connections (accounted : link.Accounted) :
    link.afloat = link.connections := by
  -- What was opened is what was released, followed by what is in use.
  have all := accounted.connections
  have released : link.releases.filter (!link.releases.contains ·) = [] := by
    simp
  have kept : link.connections.filter (!link.releases.contains ·) =
      link.connections := by
    apply List.filter_eq_self.mpr
    intro connection used
    have fresh : connection ∉ link.releases :=
      fun gone => not_mem_connections accounted gone used
    simpa using fresh
  rw [afloat, accounted.openings, ← all, List.filter_append, released, kept,
    List.nil_append]

/-- Nothing but asking for a connection puts a supervisor on record. -/
theorem served_perform (orderly : link.Orderly) (unserved : link.served = false)
    {action : Action} (quiet : action ≠ .connect) :
    (link.perform action).served = false := by
  cases action with
  | connect => exact absurd rfl quiet
  | close => exact served_close
  | send frame => exact unserved
  | elapse milliseconds => exact unserved
  | react stimulus =>
      cases shape : link.supervisors with
      | nil => simpa [perform, step, shape] using unserved
      | cons first others =>
          have dismissed := served_eq_false_iff.mp unserved first (by simp [shape])
          cases move_step shape (orderly.supervised shape) stimulus with
          | effort speaks _ => simp [dismissed] at speaks
          | farewell _ farewell =>
              have aside := aside_farewell shape (orderly.fits shape) dismissed
                farewell
              rw [perform, ← isSome_speaker, aside.speaker, isSome_speaker]
              exact unserved

theorem served_run (orderly : link.Orderly) (unserved : link.served = false)
    {actions : List Action} (quiet : .connect ∉ actions) :
    (link.run actions).served = false := by
  induction actions generalizing link with
  | nil => exact unserved
  | cons action actions induction =>
      simp only [List.mem_cons, not_or] at quiet
      have still := served_perform orderly unserved (Ne.symm quiet.1)
      exact induction (orderly_perform orderly action) still quiet.2

/-- Only the first supervisor has begun. -/
theorem eq_first_of_begun {other : Supervisor} (leads : supervisor.Leads others)
    (member : other ∈ supervisor :: others) (begun : other.phase ≠ .waiting) :
    other = supervisor := by
  rcases List.mem_cons.mp member with equal | behind
  · exact equal
  · exact absurd (leads.behind other behind).1 begun

theorem countP_begun (orderly : link.Orderly) :
    link.supervisors.countP (·.phase ≠ .waiting) ≤ 1 := by
  cases shape : link.supervisors with
  | nil => simp
  | cons first others =>
      have behind : others.countP (·.phase ≠ .waiting) = 0 := by
        apply List.countP_eq_zero.mpr
        intro other member
        simp [((orderly.leads shape).behind other member).1]
      rw [List.countP_cons, behind, Nat.zero_add]
      split <;> simp

/-- Supervisors end in the order of their start. -/
theorem endings_eq_range (accounted : link.Accounted) :
    link.endings = List.range link.endings.length := by
  have all := accounted.serials
  have bound : link.endings.length ≤ link.started := by
    have lengths := congrArg List.length all
    simp only [List.length_append, List.length_range] at lengths
    omega
  calc
    link.endings = (List.range link.started).take link.endings.length := by
      rw [← all, List.take_left]
    _ = List.range link.endings.length := by
      rw [List.take_range, Nat.min_eq_left bound]

/-- As many supervisors have ended as were started before the first. -/
theorem serial_eq_length_endings (accounted : link.Accounted)
    (shape : link.supervisors = supervisor :: others) :
    supervisor.serial = link.endings.length := by
  have all := accounted.serials
  rw [serials, shape, List.map_cons] at all
  have bound : link.endings.length < link.started := by
    have lengths := congrArg List.length all
    simp only [List.length_append, List.length_cons, List.length_range] at lengths
    omega
  have found : (List.range link.started)[link.endings.length]? =
      some supervisor.serial := by simp [← all]
  rw [List.getElem?_range bound] at found
  exact (Option.some.inj found).symm

theorem length_afloat (sound : link.Sound) : link.afloat.length ≤ 1 := by
  rw [afloat_eq_connections sound.accounted]
  cases shape : link.supervisors with
  | nil => simp [connections, shape]
  | cons first others =>
      rw [connections_of_cons shape (sound.orderly.leads shape)]
      cases first.phase.connection? <;> simp

theorem afloat_of_attempting (sound : link.Sound)
    (member : supervisor ∈ link.supervisors)
    (phase : supervisor.phase = .attempting) : link.afloat = [] := by
  cases shape : link.supervisors with
  | nil => simp [shape] at member
  | cons first others =>
      have leads := sound.orderly.leads shape
      rw [shape] at member
      have equal := eq_first_of_begun leads member (by simp [phase])
      rw [afloat_eq_connections sound.accounted, connections_of_cons shape leads,
        ← equal, phase]
      rfl

theorem ended_of_begun (sound : link.Sound)
    (member : supervisor ∈ link.supervisors)
    (begun : supervisor.phase ≠ .waiting) {serial : Nat}
    (earlier : serial < supervisor.serial) : .ended serial ∈ link.journal := by
  cases shape : link.supervisors with
  | nil => simp [shape] at member
  | cons first others =>
      rw [shape] at member
      have equal := eq_first_of_begun (sound.orderly.leads shape) member begun
      rw [← mem_endings, endings_eq_range sound.accounted,
        ← serial_eq_length_endings sound.accounted shape, ← equal]
      exact List.mem_range.mpr earlier

theorem aside_of_superseded {plan : LinkPlan}
    (interval : 0 < plan.keepAliveInterval) {actions : List Action}
    (shape : (({ plan } : Link).run actions).supervisors = supervisor :: others)
    (superseded : ({ plan } : Link).Superseded actions supervisor.serial)
    (stimulus : Stimulus) :
    Aside supervisor (({ plan } : Link).run actions)
      ((({ plan } : Link).run actions).step stimulus) := by
  have orderly := orderly_run interval actions
  have dismissed := dismissed_of_superseded (manned_start plan)
    (by simp [shape]) superseded
  cases move_step shape (orderly.supervised shape) stimulus with
  | effort speaks _ => simp [dismissed] at speaks
  | farewell _ farewell =>
      exact aside_farewell shape (orderly.fits shape) dismissed farewell

/-- A link that nobody serves rests until the page asks for a connection. -/
theorem rest_of_unserved (sound : link.Sound) (unserved : link.served = false)
    {later : List Action} (quiet : .connect ∉ later) :
    (link.run later).condition = .disconnected ∧
      (link.run later).requested = false := by
  -- Without a supervisor on record the link is not connected and not wanted.
  have after : (link.run later).Sound := sound.run later
  have still := served_run sound.orderly unserved quiet
  refine ⟨?_, after.recorded.requested.symm.trans still⟩
  apply Decidable.byContradiction
  intro away
  have serving := after.recorded.condition away
  exact absurd (serving.symm.trans still) (by simp)

/-- A link that was closed stays so until the page asks for a connection. -/
theorem rest_of_close (sound : link.Sound) {later : List Action}
    (quiet : .connect ∉ later) :
    (link.close.run later).condition = .disconnected ∧
      (link.close.run later).requested = false :=
  rest_of_unserved (sound_perform sound .close) served_close quiet

/-- In every run a supervisor is on record exactly while a connection is
requested, and without a request the link is disconnected.  At most one
supervisor has left its waiting phase, all before it have ended, and at most one
connection is open, none during an attempt.  A supervisor of an older generation
leaves the state of the link alone.  Once closed, the link stays disconnected
and unrequested until the page asks for a connection. -/
theorem recorded_and_alone_and_aside {plan : LinkPlan}
    (interval : 0 < plan.keepAliveInterval) (actions : List Action) :
    let link := ({ plan } : Link).run actions
    link.speaker.isSome = link.requested ∧
      (link.condition ≠ .disconnected → link.requested = true) ∧
      link.supervisors.countP (·.phase ≠ .waiting) ≤ 1 ∧
      (∀ supervisor ∈ link.supervisors, supervisor.phase ≠ .waiting →
        ∀ serial < supervisor.serial, .ended serial ∈ link.journal) ∧
      link.afloat.length ≤ 1 ∧
      (∀ supervisor ∈ link.supervisors, supervisor.phase = .attempting →
        link.afloat = []) ∧
      (∀ supervisor others stimulus,
        link.supervisors = supervisor :: others →
        ({ plan } : Link).Superseded actions supervisor.serial →
          Aside supervisor link (link.step stimulus)) ∧
      ∀ later, .connect ∉ later →
        (link.close.run later).condition = .disconnected ∧
          (link.close.run later).requested = false := by
  intro link
  have sound := sound_run interval actions
  refine ⟨isSome_speaker.trans sound.recorded.requested, ?_,
    countP_begun sound.orderly, ?_, length_afloat sound, ?_, ?_, ?_⟩
  · intro away
    rw [← sound.recorded.requested]
    exact sound.recorded.condition away
  · intro supervisor member begun serial earlier
    exact ended_of_begun sound member begun earlier
  · intro supervisor member phase
    exact afloat_of_attempting sound member phase
  · intro supervisor others stimulus shape superseded
    exact aside_of_superseded interval shape superseded stimulus
  · intro later quiet
    exact rest_of_close sound quiet

/-- A link that is closed in the middle of a write and asked for a connection
again: the old supervisor is superseded and still at work, and the new one
waits. -/
theorem recorded_and_alone_and_aside_superseded :
    let plan : LinkPlan := ⟨"ws://portal/S1", ⟨"S1"⟩, 1000, 60000, none⟩
    let actions : List Action :=
      [.connect, .react .turn, .react .accepted, .send "a", .react .wake, .close,
        .connect, .send "b"]
    let link := ({ plan } : Link).run actions
    0 < plan.keepAliveInterval ∧
      (link.condition ≠ .disconnected ∧ link.requested = true) ∧
      (∃ supervisor others,
        link.supervisors = supervisor :: others ∧
        ({ plan } : Link).Superseded actions supervisor.serial ∧
        supervisor.phase ≠ .waiting ∧ link.afloat = [0] ∧
        Aside supervisor link (link.step (.writeFailed .connectionClosed)) ∧
        (link.step (.writeFailed .connectionClosed)).outbound = ["a", "b"]) ∧
      (link.close.run [.send "c", .react .turn]).condition = .disconnected := by
  intro plan actions link
  have interval : 0 < plan.keepAliveInterval := by decide
  obtain ⟨_, wanted, _, _, _, _, aside, closed⟩ :=
    recorded_and_alone_and_aside interval actions
  have away : link.condition ≠ .disconnected := by decide
  have superseded : ({ plan } : Link).Superseded actions 0 :=
    ⟨[.connect], actions.tail, rfl, by decide, by decide⟩
  refine ⟨interval, ⟨away, wanted away⟩, ⟨_, _, rfl, superseded, by decide,
    by decide, aside _ _ _ rfl superseded, by decide⟩,
    (closed [.send "c", .react .turn] (by decide)).1⟩

end PageSession.Link
