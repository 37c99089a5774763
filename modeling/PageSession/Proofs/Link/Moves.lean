import PageSession.Proofs.Link.Conservation

/-!
# The moves of a supervisor

Whatever the stimulus is, the first supervisor makes one of a few moves: an
effort as long as it speaks for the link, a part of its farewell after that.
Each says when it is possible, how far the supervisor has come then, what
changes in the link and what is reported.  The page has six requests besides.
What every move and every request keeps, every run keeps.
-/

namespace PageSession

def Phase.connection? : Phase → Option Nat
  | .online connection _ _ => some connection
  | _ => none

section Connection

variable (connection due : Nat) (stage : Stage)

@[simp] theorem Phase.connection?_waiting :
    Phase.waiting.connection? = none := rfl

@[simp] theorem Phase.connection?_attempting :
    Phase.attempting.connection? = none := rfl

@[simp] theorem Phase.connection?_delaying :
    (Phase.delaying due).connection? = none := rfl

@[simp] theorem Phase.connection?_stranded :
    Phase.stranded.connection? = none := rfl

@[simp] theorem Phase.connection?_online :
    (Phase.online connection due stage).connection? = some connection := rfl

end Connection

/-- What is done next with a queue on an open connection. -/
def Stage.taking : List String → Stage
  | [] => .idle
  | frame :: _ => .writing frame

/-- What is done next with the frames handed over. -/
def Stage.departing : List String → Stage
  | [] => .leaving
  | frame :: rest => .parting frame rest

@[simp] theorem Stage.taking_ne_suspending (queue : List String) :
    Stage.taking queue ≠ .suspending := by
  cases queue <;> simp [taking]

@[simp] theorem Stage.taking_eq_idle_iff {queue : List String} :
    Stage.taking queue = .idle ↔ queue = [] := by
  cases queue <;> simp [taking]

/-- The frame that is taken stands before the others of the queue. -/
@[simp] theorem Stage.frames_taking_append_tail (queue : List String) :
    (Stage.taking queue).frames ++ queue.tail = queue := by
  cases queue <;> rfl

@[simp] theorem Stage.departing_ne_closing (frames : List String) :
    Stage.departing frames ≠ .closing := by
  cases frames <;> simp [departing]

@[simp] theorem Stage.departing_ne_suspending (frames : List String) :
    Stage.departing frames ≠ .suspending := by
  cases frames <;> simp [departing]

@[simp] theorem Stage.frames_departing (frames : List String) :
    (Stage.departing frames).frames = frames := by
  cases frames <;> rfl

/-- Whether the queue is no longer written. -/
def Stage.retires : Stage → Bool
  | .idle | .writing _ => false
  | _ => true

namespace Link

/-- The frame that announces the end of the session. -/
def farewell (link : Link) : String :=
  (Notification.disconnect link.plan.session).frame

/-- What a supervisor that speaks for the link makes of it in one step. -/
inductive Effort (link : Link) (supervisor : Supervisor)
    (others : List Supervisor) : Link → Prop
  | stay : Effort link supervisor others link
  | attempt (phase : supervisor.phase = .waiting) :
      Effort link supervisor others
        { link with
          supervisors := { supervisor with phase := .attempting } :: others
          journal := link.journal ++ [.attempting link.now] }
  | retry {due : Nat} (phase : supervisor.phase = .delaying due) (ripe : due ≤ link.now) :
      Effort link supervisor others
        { link with
          condition := .connecting
          supervisors := { supervisor with phase := .attempting } :: others
          journal := link.journal ++ [.attempting link.now] }
  | refuse (error : LinkError) (phase : supervisor.phase = .attempting) :
      Effort link supervisor others
        { link with
          condition := .disconnected
          supervisors :=
            { supervisor with
              phase := .delaying (link.now + link.plan.reconnectDelay) } :: others
          journal := link.journal ++
            [.refused link.now,
              .incident (.connectFailed link.plan.endpoint error)] }
  | openUp (interval : 0 < link.plan.keepAliveInterval)
      (phase : supervisor.phase = .attempting) :
      Effort link supervisor others
        { link with
          condition := .connected
          outbound := link.outbound.tail
          idle := 0
          sentSinceTick := false
          supervisors :=
            { supervisor with
              wasOpen := true
              phase := .online link.opened
                (link.now + link.plan.keepAliveInterval)
                (.taking link.outbound) } :: others
          opened := link.opened + 1
          journal := link.journal ++
            [.opened link.opened, .incident (.opened link.plan.endpoint),
              .event (if supervisor.wasOpen then .connectionRestored
                else .connected)] }
  /-- Without an interval for ticks the connection is let go at once. -/
  | strand (interval : link.plan.keepAliveInterval = 0)
      (phase : supervisor.phase = .attempting) :
      Effort link supervisor others
        { link with
          condition := .connected
          idle := 0
          sentSinceTick := false
          supervisors :=
            { supervisor with wasOpen := true, phase := .stranded } :: others
          opened := link.opened + 1
          journal := link.journal ++
            [.opened link.opened, .incident (.opened link.plan.endpoint),
              .event (if supervisor.wasOpen then .connectionRestored
                else .connected), .released link.opened] }
  /-- It takes the next frame of the queue, if there is one. -/
  | take {connection tickDue : Nat} (due : Nat) (wakeUp sent : Bool)
      (phase : supervisor.phase = .online connection tickDue .idle) :
      Effort link supervisor others
        { link with
          outbound := link.outbound.tail
          wakeUp := wakeUp
          sentSinceTick := sent
          supervisors :=
            { supervisor with
              phase := .online connection due (.taking link.outbound) } :: others }
  /-- The portal is told that the page is still there. -/
  | remind {connection tickDue : Nat} (due : Nat)
      (phase : supervisor.phase = .online connection tickDue .idle) :
      Effort link supervisor others
        { link with
          idle := link.idle + link.plan.keepAliveInterval
          outbound := (link.outbound ++ [Notification.keepAlive.frame]).tail
          supervisors :=
            { supervisor with
              phase := .online connection due
                (.taking (link.outbound ++ [Notification.keepAlive.frame])) } ::
              others
          journal := link.journal ++ [.enqueued Notification.keepAlive.frame] }
  | suspend {connection tickDue : Nat} (due : Nat)
      (phase : supervisor.phase = .online connection tickDue .idle) :
      Effort link supervisor others
        { link with
          requested := false
          condition := .disconnected
          idle := link.idle + link.plan.keepAliveInterval
          supervisors :=
            { supervisor with
              dismissed := true
              phase := .online connection due .suspending } :: others
          journal := link.journal ++
            [.incident (.suspended link.plan.session),
              .event .sessionSuspended] }
  /-- The connection is lost; a frame that was being written goes back. -/
  | lose {connection tickDue : Nat} {stage : Stage} (error : LinkError)
      (phase : supervisor.phase = .online connection tickDue stage)
      (working : stage.retires = false) :
      Effort link supervisor others
        { link with
          condition := .disconnected
          outbound := stage.frames ++ link.outbound
          supervisors :=
            { supervisor with
              phase := .delaying (link.now + link.plan.reconnectDelay) } :: others
          journal := link.journal ++
            [.released connection, .lost connection link.now,
              .incident (.connectionLost link.plan.endpoint error),
              .event .connectionLost] }
  | write {connection tickDue : Nat} {frame : String}
      (phase : supervisor.phase = .online connection tickDue (.writing frame)) :
      Effort link supervisor others
        { link with
          outbound := link.outbound.tail
          supervisors :=
            { supervisor with
              phase := .online connection tickDue (.taking link.outbound) } ::
              others
          journal := link.journal ++ [.wrote connection frame] }

/-- What a dismissed supervisor makes of a link when something happens to it. -/
inductive Farewell (link : Link) (supervisor : Supervisor)
    (others : List Supervisor) (stimulus : Stimulus) : Link → Prop
  | stay : Farewell link supervisor others stimulus link
  /-- It has no connection. -/
  | giveUp (offline : supervisor.phase.connection? = none) :
      Farewell link supervisor others stimulus
        { link with
          outbound := supervisor.parting ++ link.outbound
          supervisors := others
          journal := link.journal ++ [.event .closed, .ended supervisor.serial] }
  /-- It turns to the frames handed over. -/
  | depart {connection tickDue : Nat}
      (phase : supervisor.phase = .online connection tickDue .idle) :
      Farewell link supervisor others stimulus
        { link with
          supervisors :=
            { supervisor with
              parting := []
              phase := .online connection tickDue
                (.departing supervisor.parting) } :: others }
  /-- The frame was being written when the link was closed. -/
  | finish {connection tickDue : Nat} {frame : String}
      (phase : supervisor.phase = .online connection tickDue (.writing frame)) :
      Farewell link supervisor others stimulus
        { link with
          supervisors :=
            { supervisor with phase := .online connection tickDue .idle } :: others
          journal := link.journal ++ [.wrote connection frame] }
  /-- The connection is lost before it turned to the frames handed over. -/
  | breakOff {connection tickDue : Nat} {frame : String} (error : LinkError)
      (failed : stimulus = .writeFailed error)
      (phase : supervisor.phase = .online connection tickDue (.writing frame)) :
      Farewell link supervisor others stimulus
        { link with
          outbound := frame :: supervisor.parting ++ link.outbound
          supervisors := others
          journal := link.journal ++
            [.released connection, .lost connection link.now,
              .incident (.connectionLost link.plan.endpoint error),
              .event .connectionLost, .event .closed, .ended supervisor.serial] }
  | part {connection tickDue : Nat} {frame : String} {rest : List String}
      (phase : supervisor.phase =
        .online connection tickDue (.parting frame rest)) :
      Farewell link supervisor others stimulus
        { link with
          supervisors :=
            { supervisor with
              parting := []
              phase := .online connection tickDue (.departing rest) } :: others
          journal := link.journal ++ [.wrote connection frame] }
  /-- The frames handed over and not written go back to the queue. -/
  | abandon {connection tickDue : Nat} {frame : String} {rest : List String}
      (error : LinkError) (failed : stimulus = .writeFailed error)
      (phase : supervisor.phase =
        .online connection tickDue (.parting frame rest)) :
      Farewell link supervisor others stimulus
        { link with
          outbound := frame :: rest ++ link.outbound
          supervisors := others
          journal := link.journal ++
            [.incident (.closingFailed error (rest.length + 1)),
              .released connection, .event .closed, .ended supervisor.serial] }
  | announce {connection tickDue : Nat} (written : stimulus = .wrote)
      (phase : supervisor.phase = .online connection tickDue .leaving) :
      Farewell link supervisor others stimulus
        { link with
          supervisors :=
            { supervisor with
              phase := .online connection tickDue .closing } :: others
          journal := link.journal ++ [.announced connection link.farewell] }
  /-- The end could not be announced. -/
  | hush {connection tickDue : Nat} (error : LinkError)
      (failed : stimulus = .writeFailed error)
      (phase : supervisor.phase = .online connection tickDue .leaving) :
      Farewell link supervisor others stimulus
        { link with
          supervisors :=
            { supervisor with
              phase := .online connection tickDue .closing } :: others
          journal := link.journal ++ [.incident (.unannounced error)] }
  | release {connection tickDue : Nat} {stage : Stage}
      (phase : supervisor.phase = .online connection tickDue stage)
      (silent : stage = .closing ∨ stage = .suspending) :
      Farewell link supervisor others stimulus
        { link with
          outbound := supervisor.parting ++ link.outbound
          supervisors := others
          journal := link.journal ++
            [.released connection, .event .closed, .ended supervisor.serial] }

/-- What the first supervisor makes of a link when something happens to it. -/
inductive Move (link : Link) (supervisor : Supervisor)
    (others : List Supervisor) (stimulus : Stimulus) (next : Link) : Prop
  | effort (speaks : supervisor.dismissed = false)
      (effort : Effort link supervisor others next)
  | farewell (dismissed : supervisor.dismissed = true)
      (farewell : Farewell link supervisor others stimulus next)

variable {link : Link} {supervisor : Supervisor} {others : List Supervisor}

theorem move_stay {stimulus : Stimulus} :
    Move link supervisor others stimulus link := by
  cases flag : supervisor.dismissed with
  | false => exact .effort flag .stay
  | true => exact .farewell flag .stay

/-- A supervisor no longer writes the queue only if it was dismissed. -/
def Supervised (supervisor : Supervisor) : Prop :=
  ∀ {connection tickDue stage},
    supervisor.phase = .online connection tickDue stage →
      stage.retires = true → supervisor.dismissed = true

theorem fits_of_retires {connection tickDue : Nat} {stage : Stage}
    (fits : supervisor.Fits link)
    (phase : supervisor.phase = .online connection tickDue stage)
    (retires : stage.retires = true) :
    supervisor.dismissed = true ∧ supervisor.parting = [] ∧
      link.condition ≠ .connected := by
  unfold Supervisor.Fits at fits
  rw [phase] at fits
  cases stage <;> simp_all [Stage.retires]

/-! ## The moves in terms of the steps -/

theorem flush_of_dismissed {connection tickDue : Nat}
    (dismissed : supervisor.dismissed = true) :
    link.flush supervisor others connection tickDue =
      { link with
        supervisors :=
          { supervisor with phase := .online connection tickDue .idle } ::
            others } := by
  simp [flush, dismissed, proceed]

theorem flush_of_speaks {connection tickDue : Nat}
    (speaks : supervisor.dismissed = false) :
    link.flush supervisor others connection tickDue =
      { link with
        outbound := link.outbound.tail
        supervisors :=
          { supervisor with
            phase := .online connection tickDue (.taking link.outbound) } ::
            others } := by
  cases queue : link.outbound <;>
    simp [flush, speaks, queue, proceed, Stage.taking]

theorem depart_eq {connection tickDue : Nat} (frames : List String) :
    link.depart supervisor others connection tickDue frames =
      { link with
        supervisors :=
          { supervisor with
            parting := []
            phase := .online connection tickDue (.departing frames) } ::
            others } := by
  cases frames <;> rfl

theorem conclude_eq :
    link.conclude supervisor others =
      { link with
        outbound := supervisor.parting ++ link.outbound
        supervisors := others
        journal := link.journal ++
          [.event .closed, .ended supervisor.serial] } := by
  simp [conclude, report]

theorem lose_of_speaks {connection : Nat} {error : LinkError}
    (speaks : supervisor.dismissed = false) :
    link.lose supervisor others connection error =
      { link with
        condition := .disconnected
        supervisors :=
          { supervisor with
            phase := .delaying (link.now + link.plan.reconnectDelay) } :: others
        journal := link.journal ++
          [.released connection, .lost connection link.now,
            .incident (.connectionLost link.plan.endpoint error),
            .event .connectionLost] } := by
  simp [lose, retreat, speaks, proceed, report]

theorem lose_of_dismissed {connection : Nat} {error : LinkError}
    (dismissed : supervisor.dismissed = true) :
    link.lose supervisor others connection error =
      { link with
        outbound := supervisor.parting ++ link.outbound
        supervisors := others
        journal := link.journal ++
          [.released connection, .lost connection link.now,
            .incident (.connectionLost link.plan.endpoint error),
            .event .connectionLost, .event .closed,
            .ended supervisor.serial] } := by
  simp [lose, retreat, dismissed, conclude, report]

theorem effort_tick {connection tickDue : Nat}
    (speaks : supervisor.dismissed = false)
    (phase : supervisor.phase = .online connection tickDue .idle) :
    Effort link supervisor others
      (link.tick supervisor others connection tickDue) := by
  unfold tick
  simp only
  split
  · rw [flush_of_speaks speaks]
    exact .take _ link.wakeUp false phase
  · split
    · have effort : Effort link supervisor others _ :=
        .suspend (link.nextTick tickDue) phase
      simpa [suspend, proceed, report] using effort
    · have effort : Effort link supervisor others _ :=
        .remind (link.nextTick tickDue) phase
      simpa [flush_of_speaks speaks, enqueue, report] using effort

theorem effort_openConnection (speaks : supervisor.dismissed = false)
    (phase : supervisor.phase = .attempting) :
    Effort link supervisor others (link.openConnection supervisor others) := by
  by_cases ticks : link.plan.keepAliveInterval = 0
  · have effort : Effort link supervisor others _ := .strand ticks phase
    simpa [openConnection, ticks, proceed, report] using effort
  · have effort : Effort link supervisor others _ :=
      .openUp (Nat.pos_of_ne_zero ticks) phase
    simp only [openConnection, plan_report, ticks, if_false]
    rw [flush_of_speaks (show { supervisor with wasOpen := true }.dismissed = _
      from speaks)]
    simpa [report] using effort

theorem move_idleStep {connection tickDue : Nat}
    (phase : supervisor.phase = .online connection tickDue .idle)
    (stimulus : Stimulus) :
    Move link supervisor others stimulus
      (link.idleStep supervisor others connection tickDue stimulus) := by
  unfold idleStep
  cases flag : supervisor.dismissed with
  | true =>
      rw [if_pos rfl, depart_eq]
      exact .farewell flag (.depart phase)
  | false =>
      refine .effort flag ?_
      simp only [Bool.false_eq_true, if_false]
      cases stimulus with
      | handled =>
          rw [flush_of_speaks flag]
          exact .take tickDue link.wakeUp link.sentSinceTick phase
      | readFailed error =>
          simp only
          rw [lose_of_speaks flag]
          exact .lose error phase rfl
      | wake =>
          simp only
          split
          · rw [flush_of_speaks flag]
            exact .take tickDue false link.sentSinceTick phase
          · exact .stay
      | tick =>
          simp only
          split
          · exact effort_tick flag phase
          · exact .stay
      | _ => exact .stay

theorem move_writingStep {connection tickDue : Nat} {frame : String}
    (phase : supervisor.phase = .online connection tickDue (.writing frame))
    (stimulus : Stimulus) :
    Move link supervisor others stimulus
      (link.writingStep supervisor others connection tickDue frame
        stimulus) := by
  unfold writingStep
  cases stimulus with
  | wrote =>
      simp only
      cases flag : supervisor.dismissed with
      | true =>
          rw [flush_of_dismissed flag]
          exact .farewell flag (.finish phase)
      | false =>
          rw [flush_of_speaks flag]
          exact .effort flag (.write phase)
  | writeFailed error =>
      simp only
      cases flag : supervisor.dismissed with
      | true =>
          rw [if_pos rfl, lose_of_dismissed rfl]
          exact .farewell flag (.breakOff error rfl phase)
      | false =>
          rw [if_neg (by simp), lose_of_speaks flag]
          exact .effort flag (.lose error phase rfl)
  | _ => exact move_stay

theorem farewell_partingStep {connection tickDue : Nat} {frame : String}
    {rest : List String}
    (phase : supervisor.phase =
      .online connection tickDue (.parting frame rest))
    (stimulus : Stimulus) :
    Farewell link supervisor others stimulus
      (link.partingStep supervisor others connection tickDue frame rest
        stimulus) := by
  unfold partingStep
  cases stimulus with
  | wrote =>
      simp only
      rw [depart_eq]
      exact .part phase
  | writeFailed error =>
      have farewell : Farewell link supervisor others (.writeFailed error) _ :=
        .abandon error rfl phase
      simpa [conclude_eq, report] using farewell
  | _ => exact .stay

theorem farewell_leavingStep {connection tickDue : Nat}
    (phase : supervisor.phase = .online connection tickDue .leaving)
    (stimulus : Stimulus) :
    Farewell link supervisor others stimulus
      (link.leavingStep supervisor others connection tickDue stimulus) := by
  unfold leavingStep
  cases stimulus with
  | wrote => exact .announce rfl phase
  | writeFailed error => exact .hush error rfl phase
  | _ => exact .stay

theorem farewell_closingStep {connection tickDue : Nat} {stage : Stage}
    (phase : supervisor.phase = .online connection tickDue stage)
    (silent : stage = .closing ∨ stage = .suspending) (stimulus : Stimulus) :
    Farewell link supervisor others stimulus
      (link.closingStep supervisor others connection stimulus) := by
  unfold closingStep
  cases stimulus with
  | closed =>
      have farewell : Farewell link supervisor others .closed _ :=
        .release phase silent
      simpa [conclude_eq, report] using farewell
  | _ => exact .stay

/-- A dismissed supervisor without a connection ends as soon as it looks up. -/
theorem move_conclude {stimulus : Stimulus} (dismissed : supervisor.dismissed = true)
    (offline : supervisor.phase.connection? = none) :
    Move link supervisor others stimulus (link.conclude supervisor others) := by
  rw [conclude_eq]
  exact .farewell dismissed (.giveUp offline)

theorem move_stepOf (supervised : Supervised supervisor) (stimulus : Stimulus) :
    Move link supervisor others stimulus
      (link.stepOf supervisor others stimulus) := by
  unfold stepOf
  cases phase : supervisor.phase with
  | waiting =>
      cases stimulus with
      | turn =>
          cases flag : supervisor.dismissed with
          | true => exact move_conclude flag (by simp [phase])
          | false => exact .effort flag (.attempt phase)
      | _ => exact move_stay
  | attempting =>
      cases flag : supervisor.dismissed with
      | true => exact move_conclude flag (by simp [phase])
      | false =>
          refine .effort flag ?_
          cases stimulus with
          | accepted => exact effort_openConnection flag phase
          | refused error =>
              have effort : Effort link supervisor others _ :=
                .refuse error phase
              simpa [refuse, retreat, flag, proceed, report] using effort
          | _ => exact .stay
  | delaying due =>
      cases flag : supervisor.dismissed with
      | true => exact move_conclude flag (by simp [phase])
      | false =>
          refine .effort flag ?_
          cases stimulus with
          | delayOver =>
              simp only [Bool.false_eq_true, if_false]
              split
              · next ripe => exact .retry phase ripe
              · exact .stay
          | _ => exact .stay
  | online connection tickDue stage =>
      cases stage with
      | idle => exact move_idleStep phase stimulus
      | writing frame => exact move_writingStep phase stimulus
      | parting frame rest =>
          exact .farewell (supervised phase rfl)
            (farewell_partingStep phase stimulus)
      | leaving =>
          exact .farewell (supervised phase rfl)
            (farewell_leavingStep phase stimulus)
      | closing =>
          exact .farewell (supervised phase rfl)
            (farewell_closingStep phase (.inl rfl) stimulus)
      | suspending =>
          exact .farewell (supervised phase rfl)
            (farewell_closingStep phase (.inr rfl) stimulus)
  | stranded => exact move_stay

/-- Every step of a link is a move of its first supervisor. -/
theorem move_step (shape : link.supervisors = supervisor :: others)
    (supervised : Supervised supervisor) (stimulus : Stimulus) :
    Move link supervisor others stimulus (link.step stimulus) := by
  unfold step
  rw [shape]
  exact move_stepOf supervised stimulus

/-! ## What the page asks for -/

@[simp] theorem serial_dismiss (frames : List String) (supervisor : Supervisor) :
    (dismiss frames supervisor).serial = supervisor.serial := by
  cases flag : supervisor.dismissed <;> simp [dismiss, flag]

@[simp] theorem wasOpen_dismiss (frames : List String)
    (supervisor : Supervisor) :
    (dismiss frames supervisor).wasOpen = supervisor.wasOpen := by
  cases flag : supervisor.dismissed <;> simp [dismiss, flag]

/-- What the page makes of a link, or the time that passes. -/
inductive Request (link : Link) : Action → Link → Prop
  /-- A supervisor serves the link already. -/
  | confirm (serving : link.served = true) :
      Request link .connect { link with requested := true }
  | start (unserved : link.served = false) :
      Request link .connect
        { link with
          requested := true
          condition := .connecting
          idle := 0
          sentSinceTick := false
          supervisors := link.supervisors ++ [{ serial := link.started }]
          started := link.started + 1
          journal := link.journal ++
            [.incident (.connecting link.plan.endpoint),
              .started link.started] }
  /-- No supervisor serves the link. -/
  | cancel (unserved : link.served = false) :
      Request link .close
        { link with requested := false, condition := .disconnected }
  | close (serial : Nat) (serving : link.served = true) :
      Request link .close
        { link with
          requested := false
          condition := .disconnected
          outbound := if link.condition == .connected then [] else link.outbound
          supervisors := (link.supervisors.filter (!isStranded ·)).map
            (dismiss link.handedOver)
          journal := link.journal ++
            [.incident (.closing link.plan.session), .dismissed serial] }
  | send (frame : String) :
      Request link (.send frame)
        { link with
          idle := 0
          sentSinceTick := true
          wakeUp := true
          outbound := link.outbound ++ [frame]
          journal := link.journal ++ [.enqueued frame, .woken] }
  | elapse (milliseconds : Nat) :
      Request link (.elapse milliseconds)
        { link with now := link.now + milliseconds }

theorem request_connect : Request link .connect link.connect := by
  cases serving : link.served with
  | true =>
      rw [connect_of_served serving]
      exact .confirm serving
  | false =>
      have request := Request.start serving
      simpa [connect, serving, report] using request

theorem request_close : Request link .close link.close := by
  cases serving : link.served with
  | false =>
      rw [close_of_unserved serving]
      exact .cancel serving
  | true =>
      obtain ⟨speaker, found⟩ := exists_speaker serving
      have request := Request.close speaker.serial serving
      simpa [close, found, handedOver, report] using request

theorem served_close : link.close.served = false := by
  cases serving : link.served with
  | false =>
      rw [close_of_unserved serving]
      exact serving
  | true =>
      obtain ⟨speaker, found⟩ := exists_speaker serving
      simp [close, found, served]

theorem request_send (frame : String) :
    Request link (.send frame) (link.send frame) := by
  have request : Request link (.send frame) _ := .send frame
  simpa [send, enqueue, report] using request

inductive Change (link : Link) : Action → Link → Prop
  | request {action : Action} {next : Link}
      (request : Request link action next) : Change link action next
  | move {supervisor : Supervisor} {others : List Supervisor}
      {stimulus : Stimulus} {next : Link}
      (shape : link.supervisors = supervisor :: others)
      (move : Move link supervisor others stimulus next) :
      Change link (.react stimulus) next
  /-- There is no supervisor that could do anything. -/
  | rest (stimulus : Stimulus) : Change link (.react stimulus) link

theorem change_step
    (supervised : ∀ {supervisor others},
      link.supervisors = supervisor :: others → Supervised supervisor)
    (stimulus : Stimulus) :
    Change link (.react stimulus) (link.step stimulus) := by
  cases shape : link.supervisors with
  | nil =>
      have still : link.step stimulus = link := by simp [step, shape]
      rw [still]
      exact .rest stimulus
  | cons supervisor others =>
      exact .move shape (move_step shape (supervised shape) stimulus)

theorem change_perform
    (supervised : ∀ {supervisor others},
      link.supervisors = supervisor :: others → Supervised supervisor)
    (action : Action) : Change link action (link.perform action) := by
  cases action with
  | connect => exact .request request_connect
  | close => exact .request request_close
  | send frame => exact .request (request_send frame)
  | elapse milliseconds => exact .request (.elapse milliseconds)
  | react stimulus => exact change_step supervised stimulus

theorem plan_request {action : Action} {next : Link}
    (request : Request link action next) :
    next.plan = link.plan := by
  cases request <;> rfl

theorem plan_move {stimulus : Stimulus} {next : Link}
    (move : Move link supervisor others stimulus next) :
    next.plan = link.plan := by
  cases move with
  | effort _ effort => cases effort <;> rfl
  | farewell _ farewell => cases farewell <;> rfl

theorem journal_request {action : Action} {next : Link}
    (request : Request link action next) :
    link.journal <+: next.journal := by
  cases request <;>
    first | exact List.prefix_rfl | exact List.prefix_append ..

theorem journal_move {stimulus : Stimulus} {next : Link}
    (move : Move link supervisor others stimulus next) :
    link.journal <+: next.journal := by
  cases move with
  | effort _ effort =>
      cases effort <;>
        first | exact List.prefix_rfl | exact List.prefix_append ..
  | farewell _ farewell =>
      cases farewell <;>
        first | exact List.prefix_rfl | exact List.prefix_append ..

theorem Orderly.supervised (orderly : link.Orderly)
    (shape : link.supervisors = supervisor :: others) :
    Supervised supervisor :=
  fun phase retires => (fits_of_retires (orderly.fits shape) phase retires).1

theorem plan_perform
    (supervised : ∀ {supervisor others},
      link.supervisors = supervisor :: others → Supervised supervisor)
    (action : Action) : (link.perform action).plan = link.plan := by
  have change := change_perform supervised action
  generalize link.perform action = next at change ⊢
  cases change with
  | request request => exact plan_request request
  | move _ move => exact plan_move move
  | rest _ => rfl

/-- The first supervisor after a request is new, or was the first before and may
have been dismissed. -/
theorem origin_of_request {action : Action} {next : Link} {heir : Supervisor}
    {rest : List Supervisor} (orderly : link.Orderly)
    (request : Request link action next)
    (shape : next.supervisors = heir :: rest) :
    (link.supervisors = [] ∧ heir.phase = .waiting ∧ heir.wasOpen = false) ∨
      ∃ first others, link.supervisors = first :: others ∧
        (heir = first ∨ action = .close ∧ heir = dismiss link.handedOver first) := by
  cases request with
  | start unserved =>
      cases before : link.supervisors with
      | nil =>
          simp only [before, List.nil_append, List.cons.injEq] at shape
          exact .inl ⟨rfl, by simp [← shape.1]⟩
      | cons first others =>
          simp only [before, List.cons_append, List.cons.injEq] at shape
          exact .inr ⟨first, others, rfl, .inl shape.1.symm⟩
  | close serial serving =>
      rw [filter_stranded orderly] at shape
      cases before : link.supervisors with
      | nil => simp [before] at shape
      | cons first others =>
          simp only [before, List.map_cons, List.cons.injEq] at shape
          exact .inr ⟨first, others, rfl, .inr ⟨rfl, shape.1.symm⟩⟩
  | _ => exact .inr ⟨heir, rest, shape, .inl rfl⟩

/-- No request touches a first supervisor that was dismissed. -/
theorem first_request {action : Action} {next : Link} (orderly : link.Orderly)
    (shape : link.supervisors = supervisor :: others)
    (dismissed : supervisor.dismissed = true)
    (request : Request link action next) :
    ∃ others, next.supervisors = supervisor :: others := by
  cases request with
  | start unserved => exact ⟨_, by rw [shape]; rfl⟩
  | close serial serving =>
      have kept : dismiss link.handedOver supervisor = supervisor := by
        simp [dismiss, dismissed]
      rw [filter_stranded orderly, shape, List.map_cons, kept]
      exact ⟨_, rfl⟩
  | _ => exact ⟨others, shape⟩

end Link

end PageSession
