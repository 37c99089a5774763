import Mathlib.Data.List.Induction
import PageSession.Proofs.Link.Lifecycle

/-!
# What is written on a connection that is closed

Closing an open connection fixes what will have been written on it: what was
written before, the frame being written, the queue of that moment, and the
announcement of the end.  As long as no write fails all of it is written, and
nothing else is, whatever the page does meanwhile.

No other connection announces the end.  Without an interval for ticks nothing
is ever written.
-/

namespace PageSession.Link

def Report.isWriting (connection : Nat) : Report → Bool
  | .wrote used _ | .announced used _ => used == connection
  | _ => false

def writings (link : Link) (connection : Nat) : List Report :=
  link.journal.filter (Report.isWriting connection)

/-- A connection is the open one. -/
def IsOpen (link : Link) (connection : Nat) : Prop :=
  link.condition = .connected ∧ link.opened = connection + 1

instance (link : Link) (connection : Nat) : Decidable (link.IsOpen connection) :=
  inferInstanceAs (Decidable (_ ∧ _))

/-- All that is to be written on a connection that is closed now. -/
def lastWritings (link : Link) (connection : Nat) : List Report :=
  link.writings connection ++
    (link.held ++ link.outbound).map (.wrote connection) ++
    [.announced connection link.farewell]

def failuresBy (link : Link) : Action → List Nat
  | .react (.writeFailed _) => if link.writes then link.connections else []
  | _ => []

/-- The connections on which writes fail in the course of some actions. -/
def failures (link : Link) : List Action → List Nat
  | [] => []
  | action :: actions =>
      link.failuresBy action ++ (link.perform action).failures actions

/-- Nothing is written on a connection any more: it was released, or is being
closed. -/
def Settled (link : Link) (connection : Nat) : Prop :=
  connection ∈ link.releases ∨
    ∃ supervisor others tickDue, link.supervisors = supervisor :: others ∧
      supervisor.phase = .online connection tickDue .closing

variable {link next : Link} {supervisor : Supervisor} {others : List Supervisor}
  {stimulus : Stimulus} {action : Action} {connection : Nat}

theorem failures_append (before after : List Action) :
    link.failures (before ++ after) =
      link.failures before ++ (link.run before).failures after := by
  induction before generalizing link with
  | nil => rfl
  | cons action before induction => simp [failures, induction]

theorem Sound.fits_of_online {tickDue : Nat} {stage : Stage}
    (sound : link.Sound) (shape : link.supervisors = supervisor :: others)
    (phase : supervisor.phase = .online connection tickDue stage)
    (retires : stage.retires = true) :
    supervisor.dismissed = true ∧ supervisor.parting = [] :=
  have fits := fits_of_retires (sound.orderly.fits shape) phase retires
  ⟨fits.1, fits.2.1⟩

/-! ## A connection on which nothing is written any more -/

theorem settled_request (sound : link.Sound)
    (settled : link.Settled connection) (request : Request link action next) :
    next.Settled connection := by
  rcases settled with released | ⟨supervisor, others, tickDue, shape, phase⟩
  · have kept := (journal_request request).subset (mem_releases.mp released)
    exact .inl (mem_releases.mpr kept)
  · have dismissed := (sound.fits_of_online shape phase rfl).1
    obtain ⟨others, leading⟩ :=
      first_request sound.orderly shape dismissed request
    exact .inr ⟨supervisor, others, tickDue, leading, phase⟩

theorem settled_move (sound : link.Sound) (settled : link.Settled connection)
    (shape : link.supervisors = supervisor :: others)
    (move : Move link supervisor others stimulus next) :
    next.Settled connection := by
  rcases settled with released | ⟨first, rest, tickDue, leading, phase⟩
  · have kept := (journal_move move).subset (mem_releases.mp released)
    exact .inl (mem_releases.mpr kept)
  · rw [shape] at leading
    cases leading
    have dismissed := (sound.fits_of_online shape phase rfl).1
    cases move with
    | effort speaks _ => simp [dismissed] at speaks
    | farewell _ farewell =>
        cases farewell with
        | stay => exact .inr ⟨supervisor, others, tickDue, shape, phase⟩
        | release closing silent =>
            rw [phase] at closing
            cases closing
            exact .inl (mem_releases.mpr (by simp))
        | _ => simp_all

/-- What the first supervisor is about on a settled connection, if anything. -/
theorem closing_of_settled (sound : link.Sound)
    (settled : link.Settled connection)
    (shape : link.supervisors = supervisor :: others) {tickDue : Nat}
    {stage : Stage}
    (phase : supervisor.phase = .online connection tickDue stage) :
    stage = .closing := by
  rcases settled with released | ⟨first, rest, due, leading, closing⟩
  · have used : connection ∈ link.connections := by
      simp [connections, shape, phase]
    exact absurd used (not_mem_connections sound.accounted released)
  · rw [shape] at leading
    cases leading
    rw [phase] at closing
    cases closing
    rfl

theorem writings_request (request : Request link action next) :
    next.writings connection = link.writings connection := by
  cases request <;> simp [writings, Report.isWriting]

theorem writings_move_of_silent
    (silent : ∀ tickDue stage,
      supervisor.phase = .online connection tickDue stage → stage = .closing)
    (move : Move link supervisor others stimulus next) :
    next.writings connection = link.writings connection := by
  have elsewhere : ∀ {used tickDue stage}, stage ≠ .closing →
      supervisor.phase = .online used tickDue stage → used ≠ connection := by
    rintro used tickDue stage busy phase rfl
    exact busy (silent tickDue stage phase)
  cases move with
  | effort _ effort =>
      cases effort with
      | write phase =>
          have other := elsewhere (by simp) phase
          simp [writings, Report.isWriting, other]
      | _ => simp [writings, Report.isWriting]
  | farewell _ farewell =>
      cases farewell with
      | finish phase =>
          have other := elsewhere (by simp) phase
          simp [writings, Report.isWriting, other]
      | part phase =>
          have other := elsewhere (by simp) phase
          simp [writings, Report.isWriting, other]
      | announce _ phase =>
          have other := elsewhere (by simp) phase
          simp [writings, Report.isWriting, other]
      | _ => simp [writings, Report.isWriting]

theorem writings_move_of_settled (sound : link.Sound)
    (settled : link.Settled connection)
    (shape : link.supervisors = supervisor :: others)
    (move : Move link supervisor others stimulus next) :
    next.writings connection = link.writings connection :=
  writings_move_of_silent
    (fun _ _ phase => closing_of_settled sound settled shape phase) move

/-! ## From the close to the end of a connection -/

/-- How far a closed connection has come in writing what it is to write.  If it
writes no more, this is all of it unless a write has failed. -/
inductive Bidding (connection : Nat) (last : List Report) (intact : Prop)
    (link : Link) : Prop
  | owing {supervisor : Supervisor} {others : List Supervisor} {tickDue : Nat}
      {stage : Stage} (shape : link.supervisors = supervisor :: others)
      (dismissed : supervisor.dismissed = true)
      (phase : supervisor.phase = .online connection tickDue stage)
      (unfinished : stage ≠ .closing ∧ stage ≠ .suspending)
      (owed : link.writings connection ++
        supervisor.frames.map (.wrote connection) ++
        [.announced connection link.farewell] = last)
  | settled (settled : link.Settled connection)
      (short : link.writings connection <+: last)
      (whole : intact → link.writings connection = last)

variable {last : List Report} {intact : Prop}

theorem Bidding.short (bidding : Bidding connection last intact link) :
    link.writings connection <+: last := by
  cases bidding with
  | owing _ _ _ _ owed =>
      rw [← owed, List.append_assoc]
      exact List.prefix_append ..
  | settled _ short _ => exact short

theorem bidding_request (sound : link.Sound)
    (bidding : Bidding connection last intact link)
    (request : Request link action next) : Bidding connection last intact next := by
  have same : next.writings connection = link.writings connection :=
    writings_request request
  have plan := plan_request request
  cases bidding with
  | owing shape dismissed phase unfinished owed =>
      obtain ⟨others, leading⟩ :=
        first_request sound.orderly shape dismissed request
      refine .owing leading dismissed phase unfinished ?_
      rw [same, farewell, plan]
      exact owed
  | settled settled short whole =>
      rw [← same] at short whole
      exact .settled (settled_request sound settled request) short whole

/-- A failed write settles the connection, and after it nothing is said of
what was to be written. -/
theorem bidding_fail {tickDue : Nat} {stage : Stage} {error : LinkError}
    (leads : supervisor.Leads others)
    (shape : link.supervisors = supervisor :: others)
    (phase : supervisor.phase = .online connection tickDue stage)
    (writing : stage.frames ≠ [] ∨ stage = .leaving)
    (failed : stimulus = .writeFailed error)
    (short : link.writings connection <+: last)
    (silent : next.writings connection = link.writings connection)
    (settled : next.Settled connection) :
    Bidding connection last
      (intact ∧ connection ∉ link.failuresBy (.react stimulus)) next := by
  have writes : link.writes = true := by
    cases stage <;> simp_all [Link.writes, Stage.frames]
  have noted : connection ∈ link.failuresBy (.react stimulus) := by
    simp [failed, failuresBy, writes, connections_of_cons shape leads, phase]
  rw [← silent] at short
  refine .settled settled short ?_
  rintro ⟨_, clean⟩
  exact absurd noted clean

theorem bidding_announce {tickDue : Nat}
    (phase : supervisor.phase = .online connection tickDue .leaving)
    (nothing : supervisor.parting = [])
    (owed : link.writings connection ++
      supervisor.frames.map (.wrote connection) ++
      [.announced connection link.farewell] = last) :
    Bidding connection last intact
      { link with
        supervisors :=
          { supervisor with phase := .online connection tickDue .closing } ::
            others
        journal := link.journal ++ [.announced connection link.farewell] } := by
  have whole : link.writings connection ++
      [Report.announced connection link.farewell] = last := by
    simpa [Supervisor.frames, phase, Stage.frames, nothing] using owed
  have written : (link.journal ++
      [Report.announced connection link.farewell]).filter
        (Report.isWriting connection) = last := by
    simpa [List.filter_cons, Report.isWriting, writings] using whole
  refine .settled (.inr ⟨_, others, tickDue, rfl, rfl⟩) ⟨[], ?_⟩ fun _ => written
  rw [List.append_nil]
  exact written

theorem bidding_farewell {tickDue : Nat} {stage : Stage} (sound : link.Sound)
    (shape : link.supervisors = supervisor :: others)
    (dismissed : supervisor.dismissed = true)
    (phase : supervisor.phase = .online connection tickDue stage)
    (unfinished : stage ≠ .closing ∧ stage ≠ .suspending)
    (owed : link.writings connection ++
      supervisor.frames.map (.wrote connection) ++
      [.announced connection link.farewell] = last)
    (farewell : Farewell link supervisor others stimulus next) :
    Bidding connection last
      (intact ∧ connection ∉ link.failuresBy (.react stimulus)) next := by
  have leads := sound.orderly.leads shape
  have bidding : Bidding connection last True link :=
    .owing shape dismissed phase unfinished owed
  cases farewell with
  | stay => exact .owing shape dismissed phase unfinished owed
  | giveUp offline => simp [phase] at offline
  -- Turning to the frames handed over changes nothing that is owed; a frame
  -- that is written goes from what is owed to what was written.
  | depart idle =>
      rw [phase] at idle
      cases idle
      have held : supervisor.frames = supervisor.parting := by
        simp [Supervisor.frames, phase, Stage.frames]
      rw [held] at owed
      refine .owing rfl dismissed rfl (by simp) ?_
      simpa [Supervisor.frames, writings, Link.farewell] using owed
  | finish writing =>
      rw [phase] at writing
      cases writing
      refine .owing rfl dismissed rfl (by simp) ?_
      simpa [Supervisor.frames, phase, Stage.frames, writings,
        List.filter_cons, Report.isWriting, Link.farewell] using owed
  | @part _ _ frame rest parting =>
      have nothing := (sound.fits_of_online shape parting rfl).2
      rw [phase] at parting
      cases parting
      have held : supervisor.frames = frame :: rest := by
        simp [Supervisor.frames, phase, Stage.frames, nothing]
      rw [held] at owed
      refine .owing rfl dismissed rfl (by simp) ?_
      simpa [Supervisor.frames, writings, List.filter_cons, Report.isWriting,
        Link.farewell] using owed
  | announce _ leaving =>
      have nothing := (sound.fits_of_online shape leaving rfl).2
      rw [phase] at leaving
      cases leaving
      exact bidding_announce phase nothing owed
  | breakOff error failed writing =>
      rw [phase] at writing
      cases writing
      refine bidding_fail leads shape phase (.inl (by simp [Stage.frames])) failed
        bidding.short ?_ (.inl (mem_releases.mpr (by simp)))
      simp [writings, Report.isWriting]
  | abandon error failed parting =>
      rw [phase] at parting
      cases parting
      refine bidding_fail leads shape phase (.inl (by simp [Stage.frames])) failed
        bidding.short ?_ (.inl (mem_releases.mpr (by simp)))
      simp [writings, Report.isWriting]
  | hush error failed leaving =>
      rw [phase] at leaving
      cases leaving
      refine bidding_fail leads shape phase (.inr rfl) failed bidding.short ?_
        (.inr ⟨_, others, tickDue, rfl, rfl⟩)
      simp [writings, Report.isWriting]
  | release closing silent =>
      rw [phase] at closing
      cases closing
      rcases silent with rfl | rfl
      · exact absurd rfl unfinished.1
      · exact absurd rfl unfinished.2

theorem Bidding.weaken {less : Prop}
    (bidding : Bidding connection last intact link) (weaker : less → intact) :
    Bidding connection last less link := by
  cases bidding with
  | owing shape dismissed phase unfinished owed =>
      exact .owing shape dismissed phase unfinished owed
  | settled settled short whole =>
      exact .settled settled short fun less => whole (weaker less)

theorem bidding_perform (sound : link.Sound)
    (bidding : Bidding connection last intact link) (action : Action) :
    Bidding connection last (intact ∧ connection ∉ link.failuresBy action)
      (link.perform action) := by
  have change := change_perform sound.orderly.supervised action
  generalize link.perform action = next at change ⊢
  cases change with
  | request request => exact (bidding_request sound bidding request).weaken And.left
  | rest stimulus => exact bidding.weaken And.left
  | move shape move =>
      cases bidding with
      | settled settled short whole =>
          have same := writings_move_of_settled sound settled shape move
          rw [← same] at short whole
          exact .settled (settled_move sound settled shape move) short
            fun ⟨intact, _⟩ => whole intact
      | owing leading dismissed phase unfinished owed =>
          rw [shape] at leading
          cases leading
          cases move with
          | effort speaks _ => simp [dismissed] at speaks
          | farewell _ farewell =>
              exact bidding_farewell sound shape dismissed phase unfinished owed
                farewell

theorem bidding_run (sound : link.Sound)
    (bidding : Bidding connection last intact link) (actions : List Action) :
    Bidding connection last (intact ∧ connection ∉ link.failures actions)
      (link.run actions) := by
  -- Each action adds to `intact` that it makes no write on the connection fail.
  induction actions generalizing link intact with
  | nil => exact bidding.weaken And.left
  | cons action actions induction =>
      have later := induction (sound_perform sound action)
        (bidding_perform sound bidding action)
      apply later.weaken
      rintro ⟨intact, clean⟩
      simp only [failures, List.mem_append, not_or] at clean
      exact ⟨⟨intact, clean.1⟩, clean.2⟩

/-- The connection at work is the last that was opened. -/
theorem opened_of_online (sound : link.Sound)
    (shape : link.supervisors = supervisor :: others) {tickDue : Nat}
    {stage : Stage}
    (phase : supervisor.phase = .online connection tickDue stage) :
    link.opened = connection + 1 := by
  have all := sound.accounted.connections
  rw [connections_of_cons shape (sound.orderly.leads shape), phase,
    Phase.connection?_online, Option.toList_some] at all
  cases opened : link.opened with
  | zero => simp [opened] at all
  | succ earlier =>
      rw [opened, List.range_succ] at all
      obtain ⟨_, last⟩ := List.append_inj' all rfl
      rw [List.singleton_inj.mp last]

theorem isOpen_of_speaks (sound : link.Sound)
    (shape : link.supervisors = supervisor :: others)
    (speaks : supervisor.dismissed = false) {tickDue : Nat} {stage : Stage}
    (phase : supervisor.phase = .online connection tickDue stage) :
    link.IsOpen connection := by
  have fits := sound.orderly.fits shape
  unfold Supervisor.Fits at fits
  refine ⟨?_, opened_of_online sound shape phase⟩
  cases stage <;> simp_all

/-- On an open connection a single supervisor is at work, and writes the queue. -/
theorem exists_of_isOpen (sound : link.Sound) (isOpen : link.IsOpen connection) :
    ∃ supervisor tickDue stage, link.supervisors = [supervisor] ∧
      supervisor.dismissed = false ∧
      supervisor.phase = .online connection tickDue stage ∧
      stage.retires = false := by
  obtain ⟨connected, opened⟩ := isOpen
  cases shape : link.supervisors with
  | nil => exact absurd connected (sound.orderly.unserved shape)
  | cons first others =>
      obtain ⟨speaks, rfl⟩ := alone_of_connected sound.orderly shape connected
      have fits := sound.orderly.fits shape
      unfold Supervisor.Fits at fits
      cases phase : first.phase with
      | online used tickDue stage =>
          have last := opened_of_online sound shape phase
          have same : used = connection := by omega
          subst same
          refine ⟨first, tickDue, stage, rfl, speaks, phase, ?_⟩
          cases stage <;> simp_all [Stage.retires]
      | _ => simp_all

theorem bidding_close (sound : link.Sound) (isOpen : link.IsOpen connection) :
    Bidding connection (link.lastWritings connection) True link.close := by
  obtain ⟨supervisor, tickDue, stage, shape, speaks, phase, working⟩ :=
    exists_of_isOpen sound isOpen
  have serving : link.served = true := by simp [served, shape, speaks]
  have handed : link.handedOver = link.outbound := by
    simp [handedOver, isOpen.1]
  have leading : link.close.supervisors =
      [dismiss link.handedOver supervisor] := by
    rw [supervisors_close_of_served sound.orderly serving, shape]
    rfl
  have same : link.close.writings connection = link.writings connection :=
    writings_request request_close
  refine .owing leading (dismissed_dismiss _ _) (by rw [phase_dismiss, phase])
    ?_ ?_
  · constructor <;> rintro rfl <;> simp [Stage.retires] at working
  · rw [same, frames_dismiss, speaks, handed, Link.farewell, plan_close]
    simp [lastWritings, held, shape, Link.farewell]

/-- When a closed connection was released and no write on it has failed, it
wrote all it had to. -/
theorem Bidding.whole (sound : link.Sound)
    (bidding : Bidding connection last intact link) (unbroken : intact)
    (released : connection ∈ link.releases) :
    link.writings connection = last := by
  cases bidding with
  | settled _ _ whole => exact whole unbroken
  | owing shape _ phase _ _ =>
      have used : connection ∈ link.connections := by
        simp [connections, shape, phase]
      exact absurd used (not_mem_connections sound.accounted released)

/-! ## A closed connection can always come to its end -/

/-- What happens to a supervisor whose writes do not fail. -/
def Calm (stimuli : List Stimulus) : Prop :=
  ∀ stimulus ∈ stimuli, stimulus ∈ [.glance, .wrote, .closed]

/-- A connection can still be released without a failure. -/
def CanFinish (link : Link) (connection : Nat) : Prop :=
  ∃ stimuli, Calm stimuli ∧
    connection ∈ (link.run (stimuli.map .react)).releases

theorem failures_of_calm {stimuli : List Stimulus} (calm : Calm stimuli) :
    link.failures (stimuli.map .react) = [] := by
  induction stimuli generalizing link with
  | nil => rfl
  | cons stimulus stimuli induction =>
      have later : Calm stimuli :=
        fun other member => calm other (List.mem_cons_of_mem _ member)
      have first := calm stimulus List.mem_cons_self
      rw [List.map_cons, failures, induction later, List.append_nil]
      simp only [List.mem_cons, List.not_mem_nil, or_false] at first
      rcases first with rfl | rfl | rfl <;> rfl

theorem CanFinish.before
    (able : (link.step stimulus).CanFinish connection)
    (fair : stimulus ∈ [.glance, .wrote, .closed]) :
    link.CanFinish connection := by
  obtain ⟨stimuli, calm, released⟩ := able
  refine ⟨stimulus :: stimuli, ?_, released⟩
  intro other member
  rcases List.mem_cons.mp member with rfl | member
  · exact fair
  · exact calm other member

section Finish

variable {tickDue : Nat} (shape : link.supervisors = supervisor :: others)

include shape

theorem canFinish_of_closing
    (phase : supervisor.phase = .online connection tickDue .closing) :
    link.CanFinish connection := by
  refine ⟨[.closed], by simp [Calm], mem_releases.mpr ?_⟩
  simp [perform, step, shape, stepOf, phase, closingStep, conclude]

theorem canFinish_of_departing {frames : List String}
    (phase : supervisor.phase =
      .online connection tickDue (.departing frames)) :
    link.CanFinish connection := by
  -- One write for each frame still held, and one for the announcement.
  induction frames generalizing link supervisor with
  | nil =>
      have wrote : (link.step .wrote).supervisors =
          { supervisor with phase := .online connection tickDue .closing } ::
            others := by
        simp [step, shape, stepOf, phase, Stage.departing, leavingStep, proceed]
      exact (canFinish_of_closing wrote rfl).before (by simp)
  | cons frame rest induction =>
      have wrote : (link.step .wrote).supervisors =
          { supervisor with
            parting := []
            phase := .online connection tickDue (.departing rest) } ::
            others := by
        simp [step, shape, stepOf, phase, Stage.departing, partingStep, depart_eq]
      exact (induction wrote rfl).before (by simp)

theorem canFinish_of_idle (dismissed : supervisor.dismissed = true)
    (phase : supervisor.phase = .online connection tickDue .idle) :
    link.CanFinish connection := by
  have looked : (link.step .glance).supervisors =
      { supervisor with
        parting := []
        phase := .online connection tickDue (.departing supervisor.parting) } ::
        others := by
    simp [step, shape, stepOf, phase, idleStep, dismissed, depart_eq]
  exact (canFinish_of_departing looked rfl).before (by simp)

theorem canFinish_of_writing {frame : String}
    (dismissed : supervisor.dismissed = true)
    (phase : supervisor.phase = .online connection tickDue (.writing frame)) :
    link.CanFinish connection := by
  have wrote : (link.step .wrote).supervisors =
      { supervisor with phase := .online connection tickDue .idle } ::
        others := by
    simp [step, shape, stepOf, phase, writingStep, flush, dismissed, proceed]
  exact (canFinish_of_idle wrote dismissed rfl).before (by simp)

end Finish

theorem canFinish_of_bidding (bidding : Bidding connection last intact link) :
    link.CanFinish connection := by
  cases bidding with
  | @owing supervisor others tickDue stage shape dismissed phase unfinished _ =>
      cases stage with
      | idle => exact canFinish_of_idle shape dismissed phase
      | writing frame => exact canFinish_of_writing shape dismissed phase
      | parting frame rest =>
          have departing : supervisor.phase =
              .online connection tickDue (.departing (frame :: rest)) := phase
          exact canFinish_of_departing shape departing
      | leaving =>
          have departing : supervisor.phase =
              .online connection tickDue (.departing []) := phase
          exact canFinish_of_departing shape departing
      | closing => exact absurd rfl unfinished.1
      | suspending => exact absurd rfl unfinished.2
  | settled settled _ _ =>
      rcases settled with released | ⟨supervisor, others, tickDue, shape, phase⟩
      · exact ⟨[], by simp [Calm], released⟩
      · exact canFinish_of_closing shape phase

/-! ## Which connections announce the end -/

/-- Some actions close a link while a connection is open. -/
def ClosesOn (link : Link) (actions : List Action) (connection : Nat) : Prop :=
  ∃ before later, actions = before ++ .close :: later ∧
    (link.run before).IsOpen connection

/-- The first supervisor was dismissed by a close while its connection was
open, and has not ended. -/
def Departing (link : Link) (connection : Nat) : Prop :=
  ∃ supervisor others tickDue stage, link.supervisors = supervisor :: others ∧
    supervisor.phase = .online connection tickDue stage ∧
    supervisor.dismissed = true ∧ stage ≠ .suspending

variable {start : Link} {actions : List Action}

theorem ClosesOn.snoc (closes : start.ClosesOn actions connection)
    (action : Action) : start.ClosesOn (actions ++ [action]) connection := by
  obtain ⟨before, later, rfl, isOpen⟩ := closes
  exact ⟨before, later ++ [action], by simp, isOpen⟩

theorem departing_request (sound : link.Sound)
    (request : Request link action next) (departing : next.Departing connection) :
    link.Departing connection ∨ action = .close ∧ link.IsOpen connection := by
  obtain ⟨supervisor, others, tickDue, stage, shape, phase, dismissed, leaves⟩ :=
    departing
  rcases origin_of_request sound.orderly request shape with
    ⟨_, waiting, _⟩ | ⟨first, rest, before, rfl | ⟨closes, rfl⟩⟩
  · simp [waiting] at phase
  · exact .inl ⟨supervisor, rest, tickDue, stage, before, phase, dismissed, leaves⟩
  · rw [phase_dismiss] at phase
    cases flag : first.dismissed with
    | true => exact .inl ⟨first, rest, tickDue, stage, before, phase, flag, leaves⟩
    | false => exact .inr ⟨closes, isOpen_of_speaks sound before flag phase⟩

theorem departing_move (leads : supervisor.Leads others)
    (shape : link.supervisors = supervisor :: others)
    (move : Move link supervisor others stimulus next)
    (departing : next.Departing connection) : link.Departing connection := by
  obtain ⟨first, rest, tickDue, stage, leading, phase, gone, leaves⟩ := departing
  -- Whoever follows a supervisor that has ended has not begun.
  have behind : next.supervisors ≠ others := by
    intro same
    rw [same] at leading
    have waiting := (leads.behind first (by simp [leading])).1
    simp [waiting] at phase
  cases move with
  | effort speaks effort =>
      cases effort with
      | stay => exact ⟨first, rest, tickDue, stage, leading, phase, gone, leaves⟩
      | suspend due _ =>
          cases leading
          cases phase
          exact absurd rfl leaves
      | _ =>
          cases leading
          simp [speaks] at gone
  | farewell dismissed farewell =>
      cases farewell with
      | stay => exact ⟨first, rest, tickDue, stage, leading, phase, gone, leaves⟩
      | depart before | finish before | part before | announce _ before
      | hush _ _ before =>
          cases leading
          cases phase
          exact ⟨supervisor, _, _, _, shape, before, dismissed, by simp⟩
      | _ => exact absurd rfl behind

/-- A supervisor takes leave on a connection only since the link was closed. -/
theorem departing_perform (sound : link.Sound)
    (departing : (link.perform action).Departing connection) :
    link.Departing connection ∨ action = .close ∧ link.IsOpen connection := by
  have change := change_perform sound.orderly.supervised action
  generalize link.perform action = next at change departing
  cases change with
  | request request => exact departing_request sound request departing
  | move shape move =>
      have leads := sound.orderly.leads shape
      exact .inl (departing_move leads shape move departing)
  | rest _ => exact .inl departing

theorem settled_perform (sound : link.Sound) (settled : link.Settled connection)
    (action : Action) : (link.perform action).Settled connection := by
  have change := change_perform sound.orderly.supervised action
  generalize link.perform action = next at change ⊢
  cases change with
  | request request => exact settled_request sound settled request
  | move shape move => exact settled_move sound settled shape move
  | rest _ => exact settled

/-- Only a supervisor that takes leave announces the end, and then it writes no
more. -/
theorem announced_perform (sound : link.Sound) {frame : String}
    (announced : .announced connection frame ∈ (link.perform action).journal) :
    .announced connection frame ∈ link.journal ∨
      (frame = link.farewell ∧ link.Departing connection ∧
        ¬ link.Settled connection ∧ (link.perform action).Settled connection ∧
        link.failuresBy action = []) := by
  have change := change_perform sound.orderly.supervised action
  generalize link.perform action = next at change announced ⊢
  cases change with
  | request request =>
      cases request <;> exact .inl (by simpa using announced)
  | rest _ => exact .inl announced
  | move shape move =>
      cases move with
      | effort _ effort =>
          cases effort <;> exact .inl (by simpa using announced)
      | farewell dismissed farewell =>
          cases farewell with
          | announce wrote leaving =>
              simp only [List.mem_append, List.mem_singleton] at announced
              rcases announced with before | now
              · exact .inl before
              · cases now
                refine .inr ⟨rfl, ⟨_, _, _, _, shape, leaving, dismissed, by simp⟩,
                  ?_, .inr ⟨_, _, _, rfl, rfl⟩, by rw [wrote]; rfl⟩
                intro settled
                have closing := closing_of_settled sound settled shape leaving
                simp at closing
          | _ => exact .inl (by simpa using announced)

/-- A write fails on the connection on which the first supervisor writes. -/
theorem exists_of_failure (sound : link.Sound)
    (failed : connection ∈ link.failuresBy action) :
    ∃ error supervisor others tickDue stage,
      action = .react (.writeFailed error) ∧
      link.supervisors = supervisor :: others ∧
      supervisor.phase = .online connection tickDue stage ∧
      (stage.frames ≠ [] ∨ stage = .leaving) := by
  unfold failuresBy at failed
  split at failed
  · next error =>
      split at failed
      · next writing =>
          obtain ⟨writer, member, busy⟩ := List.any_eq_true.mp writing
          cases shape : link.supervisors with
          | nil => simp [shape] at member
          | cons first others =>
              have leads := sound.orderly.leads shape
              rw [shape] at member
              cases phase : writer.phase with
              | online used tickDue stage =>
                  have same := eq_first_of_begun leads member (by simp [phase])
                  subst same
                  rw [connections_of_cons shape leads, phase] at failed
                  have used : connection = used := by simpa using failed
                  subst used
                  refine ⟨error, writer, others, tickDue, stage, rfl, rfl, phase, ?_⟩
                  cases stage <;> simp_all [Stage.frames]
              | _ => simp [phase] at busy
      · simp at failed
  · simp at failed

/-- A write fails only on a connection that is not settled, and settles it. -/
theorem settled_of_failure (sound : link.Sound)
    (failed : connection ∈ link.failuresBy action) :
    ¬ link.Settled connection ∧ (link.perform action).Settled connection := by
  obtain ⟨error, supervisor, others, tickDue, stage, rfl, shape, phase, busy⟩ :=
    exists_of_failure sound failed
  constructor
  · intro settled
    have closing := closing_of_settled sound settled shape phase
    simp [closing, Stage.frames] at busy
  · cases stage with
    | writing frame =>
        refine .inl (mem_releases.mpr ?_)
        cases flag : supervisor.dismissed <;>
          simp [perform, step, shape, stepOf, phase, writingStep, flag,
            lose_of_speaks, lose_of_dismissed]
    | parting frame rest =>
        refine .inl (mem_releases.mpr ?_)
        simp [perform, step, shape, stepOf, phase, partingStep, conclude]
    | leaving =>
        have next : (link.step (.writeFailed error)).supervisors =
            { supervisor with phase := .online connection tickDue .closing } ::
              others := by
          simp [step, shape, stepOf, phase, leavingStep, proceed]
        exact .inr ⟨_, others, tickDue, next, rfl⟩
    | _ => simp [Stage.frames] at busy

section Run

variable {plan : LinkPlan} (interval : 0 < plan.keepAliveInterval)

include interval

theorem closesOn_of_departing (actions : List Action)
    (departing : (({ plan } : Link).run actions).Departing connection) :
    ({ plan } : Link).ClosesOn actions connection := by
  induction actions using List.reverseRecOn with
  | nil =>
      obtain ⟨_, _, _, _, shape, _⟩ := departing
      simp at shape
  | append_singleton actions action induction =>
      rw [run_append] at departing
      rcases departing_perform (sound_run interval actions) departing with
        before | ⟨rfl, isOpen⟩
      · exact (induction before).snoc action
      · exact ⟨actions, [], rfl, isOpen⟩

/-- A connection on which a write has failed or the end was announced is
settled. -/
theorem settled_run (actions : List Action)
    (marked : connection ∈ ({ plan } : Link).failures actions ∨
      ∃ frame, .announced connection frame ∈
        (({ plan } : Link).run actions).journal) :
    (({ plan } : Link).run actions).Settled connection := by
  induction actions using List.reverseRecOn with
  | nil => simp [failures] at marked
  | append_singleton actions action induction =>
      have sound := sound_run interval actions
      rw [failures_append, run_append] at marked
      rw [run_append]
      rcases marked with failed | ⟨frame, announced⟩
      · rcases List.mem_append.mp failed with before | now
        · exact settled_perform sound (induction (.inl before)) action
        · have failed : connection ∈
              (({ plan } : Link).run actions).failuresBy action := by
            simpa [failures] using now
          exact (settled_of_failure sound failed).2
      · rcases announced_perform sound announced with before | now
        · exact settled_perform sound (induction (.inr ⟨frame, before⟩)) action
        · exact now.2.2.2.1

theorem announced_run (actions : List Action) {frame : String}
    (announced : .announced connection frame ∈
      (({ plan } : Link).run actions).journal) :
    frame = (({ plan } : Link).run actions).farewell ∧
      connection ∉ ({ plan } : Link).failures actions ∧
      ({ plan } : Link).ClosesOn actions connection := by
  -- An announcement settles its connection, so no write on it fails later; and
  -- a failure settles it too, so there was none before.
  induction actions using List.reverseRecOn with
  | nil => simp at announced
  | append_singleton actions action induction =>
      have sound := sound_run interval actions
      have same : (({ plan } : Link).run (actions ++ [action])).farewell =
          (({ plan } : Link).run actions).farewell := by
        rw [run_append, farewell, run_cons, run_nil,
          plan_perform sound.orderly.supervised action]
        rfl
      rw [run_append] at announced
      rw [same, failures_append, List.mem_append, not_or]
      rcases announced_perform sound announced with before | now
      · obtain ⟨text, clean, closes⟩ := induction before
        have settled := settled_run interval actions (.inr ⟨frame, before⟩)
        refine ⟨text, ⟨clean, ?_⟩, closes.snoc action⟩
        intro failed
        have failed : connection ∈
              (({ plan } : Link).run actions).failuresBy action := by
          simpa [failures] using failed
        exact (settled_of_failure sound failed).1 settled
      · obtain ⟨text, departing, unsettled, _, clean⟩ := now
        refine ⟨text, ⟨?_, by simp [failures, clean]⟩,
          (closesOn_of_departing interval actions departing).snoc action⟩
        intro failed
        exact unsettled (settled_run interval actions (.inl failed))

end Run

/-! ## Without an interval for ticks -/

/-- Nobody works with a connection, and nothing was written. -/
structure Barren (link : Link) : Prop where
  interval : link.plan.keepAliveInterval = 0
  offline : ∀ supervisor ∈ link.supervisors, supervisor.phase.connection? = none
  silent : ∀ connection, link.writings connection = []

theorem barren_request (barren : link.Barren) (request : Request link action next) :
    next.Barren := by
  obtain ⟨interval, offline, silent⟩ := barren
  refine ⟨by rw [plan_request request, interval], ?_, ?_⟩
  · cases request with
    | start unserved =>
        intro other member
        rcases List.mem_append.mp member with member | newcomer
        · exact offline other member
        · rw [List.mem_singleton.mp newcomer]
          rfl
    | close serial serving =>
        intro other member
        obtain ⟨source, kept, rfl⟩ := List.mem_map.mp member
        rw [phase_dismiss]
        exact offline source (List.mem_filter.mp kept).1
    | _ => exact offline
  · intro connection
    rw [writings_request request, silent connection]

theorem barren_move (barren : link.Barren)
    (shape : link.supervisors = supervisor :: others)
    (move : Move link supervisor others stimulus next) : next.Barren := by
  obtain ⟨interval, offline, silent⟩ := barren
  have nowhere : supervisor.phase.connection? = none :=
    offline supervisor (by simp [shape])
  refine ⟨by rw [plan_move move, interval], ?_, ?_⟩
  · rw [shape, List.forall_mem_cons] at offline
    cases move with
    | effort _ effort =>
        cases effort with
        | stay => rw [shape, List.forall_mem_cons]; exact offline
        | openUp positive _ => omega
        | _ => simp_all
    | farewell _ farewell =>
        cases farewell with
        | stay => rw [shape, List.forall_mem_cons]; exact offline
        | _ => simp_all
  · intro connection
    have quiet : ∀ tickDue stage,
        supervisor.phase = .online connection tickDue stage →
          stage = .closing := by
      intro tickDue stage phase
      simp [phase] at nowhere
    rw [writings_move_of_silent quiet move, silent connection]

theorem barren_perform (barren : link.Barren) (action : Action) :
    (link.perform action).Barren := by
  have supervised : ∀ {supervisor others},
      link.supervisors = supervisor :: others → Supervised supervisor := by
    intro supervisor others shape connection tickDue stage phase
    have nowhere := barren.offline supervisor (by simp [shape])
    simp [phase] at nowhere
  have change := change_perform supervised action
  generalize link.perform action = next at change ⊢
  cases change with
  | request request => exact barren_request barren request
  | move shape move => exact barren_move barren shape move
  | rest _ => exact barren

theorem Barren.run (barren : link.Barren) (actions : List Action) :
    (link.run actions).Barren :=
  run_induction (motive := Barren)
    (fun _ action barren => barren_perform barren action) barren actions

theorem barren_run {plan : LinkPlan} (interval : plan.keepAliveInterval = 0)
    (actions : List Action) : (({ plan } : Link).run actions).Barren :=
  Barren.run ⟨interval, by simp, fun _ => rfl⟩ actions

theorem Barren.failures (barren : link.Barren) (actions : List Action) :
    link.failures actions = [] := by
  induction actions generalizing link with
  | nil => rfl
  | cons action actions induction =>
      have idle : link.connections = [] :=
        List.filterMap_eq_nil_iff.mpr barren.offline
      have none : link.failuresBy action = [] := by
        unfold failuresBy
        split <;> simp [idle]
      rw [Link.failures, none, induction (barren_perform barren action)]
      rfl

theorem mem_writings_of_announced {frame : String}
    (announced : .announced connection frame ∈ link.journal) :
    .announced connection frame ∈ link.writings connection := by
  simp [writings, announced, Report.isWriting]

theorem not_announced_of_barren (barren : link.Barren) {frame : String} :
    .announced connection frame ∉ link.journal := by
  intro announced
  have written := mem_writings_of_announced announced
  simp [barren.silent] at written

/-! ## Whole runs -/

/-- The end is announced at most once on a connection: not before it is closed. -/
theorem not_announced_of_isOpen {plan : LinkPlan}
    (interval : 0 < plan.keepAliveInterval) {actions : List Action}
    (isOpen : (({ plan } : Link).run actions).IsOpen connection)
    (frame : String) :
    .announced connection frame ∉ (({ plan } : Link).run actions).journal := by
  intro announced
  have sound := sound_run interval actions
  obtain ⟨supervisor, tickDue, stage, shape, _, phase, working⟩ :=
    exists_of_isOpen sound isOpen
  have settled := settled_run interval actions (.inr ⟨frame, announced⟩)
  rw [closing_of_settled sound settled shape phase] at working
  simp [Stage.retires] at working

/-- From a close on, no more is written on the connection than was due then; it
can always come to its end, and has then written all that unless a write has
failed. -/
theorem writings_run_close (sound : link.Sound) (isOpen : link.IsOpen connection)
    {later : List Action} (clean : connection ∉ link.close.failures later) :
    (connection ∈ (link.close.run later).releases →
      (link.close.run later).writings connection =
        link.lastWritings connection) ∧
    ∃ stimuli, Calm stimuli ∧
      let done := (link.close.run later).run (stimuli.map .react)
      connection ∈ done.releases ∧
        done.writings connection = link.lastWritings connection := by
  have closed := sound_perform sound .close
  have begun := bidding_close sound isOpen
  have bidding := bidding_run closed begun later
  have ended : (link.close.run later).Sound := closed.run later
  refine ⟨bidding.whole ended ⟨trivial, clean⟩, ?_⟩
  obtain ⟨stimuli, calm, released⟩ := canFinish_of_bidding bidding
  have done := bidding_run ended bidding (stimuli.map .react)
  refine ⟨stimuli, calm, released,
    done.whole (ended.run _) ⟨⟨trivial, clean⟩, ?_⟩ released⟩
  simp [failures_of_calm calm]

theorem outbound_close_of_away (away : link.condition ≠ .connected) :
    link.close.outbound = link.outbound := by
  cases serving : link.served with
  | false => rw [close_of_unserved serving]
  | true =>
      have nothing : link.handedOver = [] := by simp [handedOver, away]
      have moved := outbound_close_of_served serving
      rwa [nothing, List.nil_append] at moved

/-- When the link is closed while a connection is open, no frame sent later is
ever written on it.  With an interval for ticks and no failing write it ends
with the queue of that moment and one announcement of the end; and it can come
to its end whatever happens meanwhile.  The end is announced only on a
connection that was open when the link was closed, and on which no write failed.
Closing a link that is not open keeps its queue. -/
theorem writings_of_close {plan : LinkPlan} (actions : List Action)
    (connection : Nat) :
    let link := ({ plan } : Link).run actions
    (link.IsOpen connection →
      (∀ frame, .announced connection frame ∉ link.journal) ∧
      ∀ later,
        let final := link.close.run later
        final.writings connection <+: link.lastWritings connection ∧
        (0 < plan.keepAliveInterval → connection ∉ link.close.failures later →
          (connection ∈ final.releases →
            final.writings connection = link.lastWritings connection) ∧
          ∃ stimuli, Calm stimuli ∧
            let done := final.run (stimuli.map .react)
            connection ∈ done.releases ∧
              done.writings connection = link.lastWritings connection)) ∧
    (∀ frame, .announced connection frame ∈ link.journal →
      frame = link.farewell ∧ connection ∉ ({ plan } : Link).failures actions ∧
        ({ plan } : Link).ClosesOn actions connection) ∧
    (link.condition ≠ .connected → link.close.outbound = link.outbound) := by
  intro link
  rcases Nat.eq_zero_or_pos plan.keepAliveInterval with none | interval
  · have barren : link.Barren := barren_run none actions
    refine ⟨fun _ => ⟨fun frame => not_announced_of_barren barren, ?_⟩, ?_,
      outbound_close_of_away⟩
    · intro later final
      have still : final.Barren := (barren_perform barren .close).run later
      rw [still.silent]
      exact ⟨List.nil_prefix, fun interval => by omega⟩
    · intro frame announced
      exact absurd announced (not_announced_of_barren barren)
  · have sound : link.Sound := sound_run interval actions
    refine ⟨fun isOpen => ⟨not_announced_of_isOpen interval isOpen, ?_⟩,
      fun frame => announced_run interval actions, outbound_close_of_away⟩
    intro later final
    have bidding := bidding_run (sound_perform sound .close)
      (bidding_close sound isOpen) later
    exact ⟨bidding.short, fun _ clean => writings_run_close sound isOpen clean⟩

/-- The link is closed in the middle of a write, with a frame queued, and asked
for a connection again: the old connection gets both frames and the
announcement, the new one what was sent later. -/
theorem writings_of_close_reopened :
    let plan : LinkPlan := ⟨"ws://portal/S1", ⟨"S1"⟩, 1000, 60000, none⟩
    let actions : List Action :=
      [.connect, .react .turn, .react .accepted, .send "a", .react .wake, .send "b"]
    let later : List Action :=
      [.connect, .send "c", .react .wrote, .react .glance, .react .wrote,
        .react .wrote, .react .closed, .react .turn, .react .accepted,
        .react .wrote]
    let link := ({ plan } : Link).run actions
    let final := link.close.run later
    link.IsOpen 0 ∧ 0 < plan.keepAliveInterval ∧
      0 ∉ link.close.failures later ∧ 0 ∈ final.releases ∧
      final.writings 0 =
        [.wrote 0 "a", .wrote 0 "b", .announced 0 link.farewell] ∧
      final.writings 1 = [.wrote 1 "c"] := by
  intro plan actions later link final
  have isOpen : link.IsOpen 0 := by decide
  have interval : 0 < plan.keepAliveInterval := by decide
  have clean : 0 ∉ link.close.failures later := by decide
  have released : 0 ∈ final.releases := by decide
  have whole := (((writings_of_close actions 0).1 isOpen).2 later).2 interval clean
  exact ⟨isOpen, interval, clean, released, (whole.1 released).trans (by decide),
    by decide⟩

/-- Without an interval for ticks the supervisor lets go of its connection as
soon as it is open.  Closing the link takes the queue away, and nothing of it
nor the announcement is ever written. -/
theorem writings_of_close_stranded :
    let plan : LinkPlan := ⟨"ws://portal/S1", ⟨"S1"⟩, 1000, 0, none⟩
    let link := ({ plan } : Link).run
      [.connect, .react .turn, .react .accepted, .send "x"]
    link.IsOpen 0 ∧ link.outbound = ["x"] ∧
      link.lastWritings 0 = [.wrote 0 "x", .announced 0 link.farewell] ∧
      ∀ later, 0 ∉ link.close.failures later ∧
        (link.close.run later).writings 0 = [] := by
  intro plan link
  have barren : link.Barren := barren_run rfl _
  have closed : link.close.Barren := barren_perform barren .close
  refine ⟨by decide, by decide, by decide, fun later => ⟨?_, ?_⟩⟩
  · simp [closed.failures]
  · exact (closed.run later).silent 0

end PageSession.Link
