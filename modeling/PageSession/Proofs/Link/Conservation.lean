import PageSession.Proofs.Link.Turns

/-!
# No frame is lost, doubled or reordered

Every frame that ever joined the queue is in one of four places: it was
written, it is being written, it was handed over to the connection that is
closing, or it is still queued.  The ledger lists these places in this order.
It changes only when a frame joins the queue, and then by this frame at its
end, so it is always the list of all frames that joined the queue.

An open connection on which nobody has anything to do leaves no frame queued.
-/

namespace PageSession

/-- The frames that a supervisor writes or has still to write. -/
def Stage.frames : Stage → List String
  | .writing frame => [frame]
  | .parting frame rest => frame :: rest
  | _ => []

/-- The frames taken from the queue and neither written nor put back: the one
that is being written, and those handed over. -/
def Supervisor.frames (supervisor : Supervisor) : List String :=
  match supervisor.phase with
  | .online _ _ stage => stage.frames ++ supervisor.parting
  | _ => supervisor.parting

theorem Supervisor.Leads.frames {first : Supervisor}
    {others : List Supervisor} (leads : first.Leads others) :
    others.flatMap Supervisor.frames = [] := by
  refine List.flatMap_eq_nil_iff.mpr ?_
  intro other member
  obtain ⟨waiting, nothing⟩ := leads.behind other member
  simp [Supervisor.frames, waiting, nothing]

namespace Link

/-- The frames in the hands of the supervisors. -/
def held (link : Link) : List String :=
  link.supervisors.flatMap Supervisor.frames

/-- All frames of the queue: those written, those in the hands of supervisors,
and those queued. -/
def ledger (link : Link) : List String :=
  link.written ++ link.held ++ link.outbound

/-- Whether a tick now would remind the portal of the page: it is due on an
open connection that waits, the page sent nothing since the last one, and this
is not yet too long. -/
def reminds (link : Link) : Bool :=
  match link.supervisors with
  | { dismissed := false, phase := .online _ due .idle, .. } :: _ =>
      due ≤ link.now && !link.sentSinceTick &&
        !exceeded { link with idle := link.idle + link.plan.keepAliveInterval }
  | _ => false

/-- The frames that an action adds to the queue: what the page sends, and the
reminder of a tick. -/
def enqueuedBy (link : Link) : Action → List String
  | .send frame => [frame]
  | .react .tick => if link.reminds then [Notification.keepAlive.frame] else []
  | _ => []

/-- The frames that a run adds to the queue, in order. -/
def enqueued (link : Link) : List Action → List String
  | [] => []
  | action :: actions =>
      link.enqueuedBy action ++ (link.perform action).enqueued actions

/-- A supervisor has a frame to write, or announces the end. -/
def writes (link : Link) : Bool :=
  link.supervisors.any fun supervisor =>
    match supervisor.phase with
    | .online _ _ (.writing _) | .online _ _ (.parting _ _)
    | .online _ _ .leaving => true
    | _ => false

/-- Nobody has anything to do before something happens outside: neither a turn
nor a look around nor a wake-up changes anything. -/
def AtRest (link : Link) : Prop :=
  ∀ stimulus, stimulus ∈ [Stimulus.turn, .glance, .wake] →
    link.step stimulus = link

variable {link : Link} {supervisor : Supervisor} {others : List Supervisor}

theorem ledger_of_cons (shape : link.supervisors = supervisor :: others)
    (leads : supervisor.Leads others) :
    link.ledger = link.written ++ supervisor.frames ++ link.outbound := by
  simp [ledger, held, shape, leads.frames]

theorem reminds_of_cons {connection tickDue : Nat}
    (shape : link.supervisors = supervisor :: others)
    (phase : supervisor.phase = .online connection tickDue .idle)
    (speaks : supervisor.dismissed = false) :
    link.reminds
      = (tickDue ≤ link.now && !link.sentSinceTick &&
          !exceeded { link with
            idle := link.idle + link.plan.keepAliveInterval }) := by
  obtain ⟨serial, dismissed, wasOpen, parting, current⟩ := supervisor
  simp only at phase speaks
  subst phase speaks
  simp [reminds, shape]

/-- A stimulus adds nothing to the queue unless the first supervisor speaks for
the link and waits on its open connection. -/
theorem enqueuedBy_eq_nil (shape : link.supervisors = supervisor :: others)
    (busy : supervisor.dismissed = false →
      ∀ connection tickDue, supervisor.phase ≠ .online connection tickDue .idle)
    (stimulus : Stimulus) :
    link.enqueuedBy (.react stimulus) = [] := by
  have silent : link.reminds = false := by
    unfold reminds
    split
    · next serial wasOpen parting connection due rest equality =>
        rw [shape] at equality
        cases equality
        exact absurd rfl (busy rfl connection due)
    · rfl
  cases stimulus <;> simp [enqueuedBy, silent]

/-! ## What a supervisor does -/

theorem ledger_conclude (leads : supervisor.Leads others) :
    (link.conclude supervisor others).ledger
      = link.written ++ supervisor.parting ++ link.outbound := by
  simp [ledger, written, held, conclude, leads.frames, Report.writtenFrame?]

theorem ledger_proceed (leads : supervisor.Leads others) (phase : Phase) :
    (link.proceed supervisor others phase).ledger
      = link.written ++ ({ supervisor with phase } : Supervisor).frames
          ++ link.outbound :=
  ledger_of_cons rfl (leads.replace id)

theorem ledger_attempt (leads : supervisor.Leads others) :
    (link.attempt supervisor others).ledger
      = link.written ++ supervisor.parting ++ link.outbound := by
  have begun : (link.attempt supervisor others).supervisors
      = { supervisor with phase := .attempting } :: others := rfl
  rw [ledger_of_cons begun (leads.replace id)]
  simp [attempt, proceed, Supervisor.frames, written, Report.writtenFrame?]

theorem ledger_flush {connection tickDue : Nat}
    (leads : supervisor.Leads others)
    (speaks : supervisor.dismissed = false → supervisor.parting = []) :
    (link.flush supervisor others connection tickDue).ledger
      = link.written ++ supervisor.parting ++ link.outbound := by
  unfold flush
  cases flag : supervisor.dismissed with
  | true => simp [ledger_proceed leads, Supervisor.frames, Stage.frames]
  | false =>
      cases queue : link.outbound with
      | nil => simp [ledger_proceed leads, Supervisor.frames, Stage.frames, queue]
      | cons frame rest =>
          simp [ledger_proceed leads, written, Supervisor.frames, Stage.frames,
            speaks flag]

theorem ledger_retreat (leads : supervisor.Leads others) :
    (link.retreat supervisor others).ledger
      = link.written ++ supervisor.parting ++ link.outbound := by
  unfold retreat
  cases flag : supervisor.dismissed with
  | true => simp [ledger_conclude leads]
  | false => simp [ledger_proceed leads, written, Supervisor.frames]

theorem ledger_lose {connection : Nat} {error : LinkError}
    (leads : supervisor.Leads others) :
    (link.lose supervisor others connection error).ledger
      = link.written ++ supervisor.parting ++ link.outbound := by
  simp [lose, ledger_retreat leads, written, Report.writtenFrame?]

theorem ledger_openConnection (interval : 0 < link.plan.keepAliveInterval)
    (leads : supervisor.Leads others)
    (speaks : supervisor.dismissed = false → supervisor.parting = []) :
    (link.openConnection supervisor others).ledger
      = link.written ++ supervisor.parting ++ link.outbound := by
  have ticks : link.plan.keepAliveInterval ≠ 0 := Nat.ne_of_gt interval
  have opened : ({ supervisor with wasOpen := true } : Supervisor).Leads others :=
    leads.replace id
  simp [openConnection, ticks, ledger_flush opened speaks, written,
    Report.writtenFrame?]

theorem ledger_refuse {error : LinkError} (leads : supervisor.Leads others) :
    (link.refuse supervisor others error).ledger
      = link.written ++ supervisor.parting ++ link.outbound := by
  simp [refuse, ledger_retreat leads, written, Report.writtenFrame?]

theorem ledger_depart {connection tickDue : Nat}
    (leads : supervisor.Leads others) (frames : List String) :
    (link.depart supervisor others connection tickDue frames).ledger
      = link.written ++ frames ++ link.outbound := by
  have begun : ({ supervisor with parting := [] } : Supervisor).Leads others :=
    leads.replace id
  cases frames with
  | nil => simp [depart, ledger_proceed begun, Supervisor.frames, Stage.frames]
  | cons frame rest =>
      simp [depart, ledger_proceed begun, Supervisor.frames, Stage.frames]

theorem ledger_suspend {connection tickDue : Nat}
    (leads : supervisor.Leads others) :
    (link.suspend supervisor others connection tickDue).ledger
      = link.written ++ supervisor.parting ++ link.outbound := by
  have ended : ({ supervisor with dismissed := true } : Supervisor).Leads others :=
    leads.replace fun _ => rfl
  simp [suspend, ledger_proceed ended, written, Supervisor.frames, Stage.frames,
    Report.writtenFrame?]

/-- A tick that is due adds the reminder at the end, or nothing. -/
theorem ledger_tick {connection tickDue : Nat} (due : tickDue ≤ link.now)
    (shape : link.supervisors = supervisor :: others)
    (phase : supervisor.phase = .online connection tickDue .idle)
    (leads : supervisor.Leads others)
    (speaks : supervisor.dismissed = false) (nothing : supervisor.parting = []) :
    (link.tick supervisor others connection tickDue).ledger
      = link.written ++ link.outbound ++ link.enqueuedBy (.react .tick) := by
  have reminder := reminds_of_cons shape phase speaks
  unfold tick
  cases sent : link.sentSinceTick with
  | true =>
      simp [ledger_flush leads, enqueuedBy, reminder, sent, written, nothing]
  | false =>
      cases ended : exceeded
          { link with idle := link.idle + link.plan.keepAliveInterval } with
      | true =>
          rw [ended] at reminder
          simp only [sent] at ended
          simp [ended, ledger_suspend leads, enqueuedBy, reminder, written, nothing]
      | false =>
          rw [ended] at reminder
          simp only [sent] at ended
          simp [ended, ledger_flush leads, enqueuedBy, reminder, sent, due, enqueue,
            written, nothing, Report.writtenFrame?]

/-! ## What happens to the first supervisor -/

theorem ledger_idleStep {connection tickDue : Nat} (orderly : link.Orderly)
    (shape : link.supervisors = supervisor :: others)
    (phase : supervisor.phase = .online connection tickDue .idle)
    (stimulus : Stimulus) :
    (link.idleStep supervisor others connection tickDue stimulus).ledger
      = link.ledger ++ link.enqueuedBy (.react stimulus) := by
  have leads := orderly.leads shape
  have fits := orderly.fits shape
  simp only [Supervisor.Fits, phase] at fits
  have before : link.ledger
      = link.written ++ supervisor.parting ++ link.outbound := by
    simp [ledger_of_cons shape leads, Supervisor.frames, phase, Stage.frames]
  unfold idleStep
  cases flag : supervisor.dismissed with
  | true =>
      have nothing := enqueuedBy_eq_nil shape (by simp [flag]) stimulus
      simp [ledger_depart leads, before, nothing]
  | false =>
      simp only [flag, Bool.false_eq_true, if_false] at fits ⊢
      obtain ⟨nothing, _⟩ := fits
      cases stimulus with
      | handled => simp [ledger_flush leads, before, enqueuedBy, nothing]
      | readFailed error => simp [ledger_lose leads, before, enqueuedBy]
      | wake =>
          simp only [enqueuedBy, List.append_nil]
          split
          · simp [ledger_flush leads, before, written, nothing]
          · rfl
      | tick =>
          simp only
          split
          · next due =>
              rw [ledger_tick due shape phase leads flag nothing, before, nothing,
                List.append_nil]
          · next early =>
              simp [enqueuedBy, reminds_of_cons shape phase flag, early]
      | _ => simp [enqueuedBy]

theorem ledger_writingStep {connection tickDue : Nat} {frame : String}
    (orderly : link.Orderly)
    (shape : link.supervisors = supervisor :: others)
    (phase : supervisor.phase = .online connection tickDue (.writing frame))
    (stimulus : Stimulus) :
    (link.writingStep supervisor others connection tickDue frame
      stimulus).ledger = link.ledger := by
  have leads := orderly.leads shape
  have fits := orderly.fits shape
  simp only [Supervisor.Fits, phase] at fits
  have before : link.ledger
      = link.written ++ frame :: supervisor.parting ++ link.outbound := by
    simp [ledger_of_cons shape leads, Supervisor.frames, phase, Stage.frames]
  have speaks : supervisor.dismissed = false → supervisor.parting = [] := by
    intro flag
    simp only [flag, Bool.false_eq_true, if_false] at fits
    exact fits.1
  unfold writingStep
  cases stimulus with
  | wrote =>
      simp [ledger_flush leads speaks, before, Report.writtenFrame?]
  | writeFailed error =>
      simp only
      cases flag : supervisor.dismissed with
      | true =>
          -- The frame goes back before those handed over when the link closed.
          have owed : ({ supervisor with
              parting := frame :: supervisor.parting } : Supervisor).Leads others :=
            leads.replace id
          rw [flag] at owed
          simp [ledger_lose owed, before]
      | false => simp [ledger_lose leads, before, written, speaks flag]
  | _ => rfl

theorem ledger_partingStep {connection tickDue : Nat} {frame : String}
    {rest : List String} (orderly : link.Orderly)
    (shape : link.supervisors = supervisor :: others)
    (phase : supervisor.phase = .online connection tickDue (.parting frame rest))
    (stimulus : Stimulus) :
    (link.partingStep supervisor others connection tickDue frame rest
      stimulus).ledger = link.ledger := by
  have leads := orderly.leads shape
  have fits := orderly.fits shape
  simp only [Supervisor.Fits, phase] at fits
  have before : link.ledger
      = link.written ++ frame :: rest ++ link.outbound := by
    simp [ledger_of_cons shape leads, Supervisor.frames, phase, Stage.frames,
      fits.2.1]
  have owed : ({ supervisor with parting := frame :: rest } :
      Supervisor).Leads others := leads.replace id
  unfold partingStep
  cases stimulus with
  | wrote => simp [ledger_depart leads, before, Report.writtenFrame?]
  | writeFailed error =>
      simp [ledger_conclude owed, before, written, Report.writtenFrame?]
  | _ => rfl

/-- A supervisor that has nothing left to write ends, or goes on to close its
connection; the announcement of the end is no frame of the queue. -/
theorem ledger_leavingStep {connection tickDue : Nat} (orderly : link.Orderly)
    (shape : link.supervisors = supervisor :: others)
    (phase : supervisor.phase = .online connection tickDue .leaving)
    (stimulus : Stimulus) :
    (link.leavingStep supervisor others connection tickDue
      stimulus).ledger = link.ledger := by
  have leads := orderly.leads shape
  have before : link.ledger
      = link.written ++ supervisor.parting ++ link.outbound := by
    simp [ledger_of_cons shape leads, Supervisor.frames, phase, Stage.frames]
  unfold leavingStep
  cases stimulus with
  | wrote =>
      simp [ledger_proceed leads, before, written, Supervisor.frames,
        Stage.frames, Report.writtenFrame?]
  | writeFailed error =>
      simp [ledger_proceed leads, before, written, Supervisor.frames,
        Stage.frames, Report.writtenFrame?]
  | _ => rfl

theorem ledger_closingStep {connection : Nat} (orderly : link.Orderly)
    (shape : link.supervisors = supervisor :: others)
    (held : supervisor.frames = supervisor.parting) (stimulus : Stimulus) :
    (link.closingStep supervisor others connection stimulus).ledger
      = link.ledger := by
  have leads := orderly.leads shape
  unfold closingStep
  cases stimulus with
  | closed =>
      simp [ledger_conclude leads, ledger_of_cons shape leads, held, written,
        Report.writtenFrame?]
  | _ => rfl

theorem ledger_stepOf (orderly : link.Orderly)
    (shape : link.supervisors = supervisor :: others) (stimulus : Stimulus) :
    (link.stepOf supervisor others stimulus).ledger
      = link.ledger ++ link.enqueuedBy (.react stimulus) := by
  have leads := orderly.leads shape
  have fits := orderly.fits shape
  have before := ledger_of_cons shape leads
  by_cases idle : ∃ connection tickDue,
      supervisor.phase = .online connection tickDue .idle
  · obtain ⟨connection, tickDue, phase⟩ := idle
    simp only [stepOf, phase]
    exact ledger_idleStep orderly shape phase stimulus
  · have nothing := enqueuedBy_eq_nil shape
      (fun _ connection tickDue phase => idle ⟨connection, tickDue, phase⟩)
      stimulus
    rw [nothing, List.append_nil]
    unfold stepOf
    cases phase : supervisor.phase with
    | waiting =>
        simp only [Supervisor.frames, phase] at before
        cases stimulus with
        | turn =>
            simp only
            split
            · rw [ledger_conclude leads, before]
            · rw [ledger_attempt leads, before]
        | _ => rfl
    | attempting =>
        simp only [Supervisor.frames, phase] at before
        cases flag : supervisor.dismissed with
        | true => simp [ledger_conclude leads, before]
        | false =>
            simp only [Supervisor.Fits, phase] at fits
            cases stimulus with
            | accepted =>
                simp [ledger_openConnection orderly.interval leads
                  (fun _ => fits.1), before]
            | refused error => simp [ledger_refuse leads, before]
            | _ => rfl
    | delaying due =>
        simp only [Supervisor.frames, phase] at before
        cases flag : supervisor.dismissed with
        | true => simp [ledger_conclude leads, before]
        | false =>
            cases stimulus with
            | delayOver =>
                simp only [Bool.false_eq_true, if_false]
                split
                · simp [ledger_attempt leads, before, written]
                · rfl
            | _ => rfl
    | online connection tickDue stage =>
        cases stage with
        | idle => exact absurd ⟨connection, tickDue, phase⟩ idle
        | writing frame => exact ledger_writingStep orderly shape phase stimulus
        | parting frame rest =>
            exact ledger_partingStep orderly shape phase stimulus
        | leaving => exact ledger_leavingStep orderly shape phase stimulus
        | closing =>
            exact ledger_closingStep orderly shape
              (by simp [Supervisor.frames, phase, Stage.frames]) stimulus
        | suspending =>
            exact ledger_closingStep orderly shape
              (by simp [Supervisor.frames, phase, Stage.frames]) stimulus
    | stranded => rfl

theorem ledger_step (orderly : link.Orderly) (stimulus : Stimulus) :
    (link.step stimulus).ledger
      = link.ledger ++ link.enqueuedBy (.react stimulus) := by
  unfold step
  split
  · next shape => cases stimulus <;> simp [enqueuedBy, reminds, shape]
  · next first others shape => exact ledger_stepOf orderly shape stimulus

/-! ## What the page does -/

theorem ledger_connect : link.connect.ledger = link.ledger := by
  cases serving : link.served with
  | true =>
      rw [connect_of_served serving]
      rfl
  | false =>
      have written : link.connect.written = link.written := by
        simp [connect, serving, written, Report.writtenFrame?]
      simp [ledger, held, written, outbound_connect_of_unserved serving,
        supervisors_connect_of_unserved serving, Supervisor.frames]

theorem frames_dismiss (frames : List String) (supervisor : Supervisor) :
    (dismiss frames supervisor).frames
      = if supervisor.dismissed then supervisor.frames
        else supervisor.frames ++ frames := by
  unfold Supervisor.frames
  rw [phase_dismiss, parting_dismiss]
  cases supervisor.dismissed <;> cases supervisor.phase <;> simp

/-- Closing moves the queue behind what the connection is writing, or leaves
both as they are. -/
theorem ledger_close (orderly : link.Orderly) : link.close.ledger = link.ledger := by
  cases serving : link.served with
  | false =>
      rw [close_of_unserved serving]
      rfl
  | true =>
      have moved : link.close.held = link.held ++ link.handedOver := by
        rw [held, supervisors_close_of_served orderly serving]
        by_cases connected : link.condition = .connected
        · cases shape : link.supervisors with
          | nil => simp [served, shape] at serving
          | cons first others =>
              obtain ⟨speaks, rfl⟩ := alone_of_connected orderly shape connected
              simp [held, shape, frames_dismiss, speaks]
        · have nothing : link.handedOver = [] := by
            simp [handedOver, connected]
          have unchanged : ∀ supervisor : Supervisor,
              (dismiss [] supervisor).frames = supervisor.frames := by
            intro supervisor
            simp [frames_dismiss]
          simp [held, nothing, List.flatMap_map, unchanged]
      rw [ledger, ledger, written_close, moved, List.append_assoc link.written,
        List.append_assoc link.held, outbound_close_of_served serving,
        List.append_assoc]

theorem ledger_send (frame : String) :
    (link.send frame).ledger = link.ledger ++ [frame] := by
  simp [send, enqueue, ledger, held, written, Report.writtenFrame?]

/-! ## Whole runs -/

theorem ledger_perform (orderly : link.Orderly) (action : Action) :
    (link.perform action).ledger = link.ledger ++ link.enqueuedBy action := by
  cases action with
  | connect => simp [perform, ledger_connect, enqueuedBy]
  | close => simp [perform, ledger_close orderly, enqueuedBy]
  | send frame => exact ledger_send frame
  | elapse milliseconds => exact (List.append_nil _).symm
  | react stimulus => exact ledger_step orderly stimulus

theorem ledger_run (orderly : link.Orderly) (actions : List Action) :
    (link.run actions).ledger = link.ledger ++ link.enqueued actions := by
  induction actions generalizing link with
  | nil => exact (List.append_nil _).symm
  | cons action actions induction =>
      calc
        ((link.perform action).run actions).ledger
          = (link.perform action).ledger
              ++ (link.perform action).enqueued actions :=
            induction (orderly_perform orderly action)
        _ = link.ledger ++ link.enqueued (action :: actions) := by
            rw [ledger_perform orderly action, enqueued, List.append_assoc]

theorem wakeUp_flush {connection tickDue : Nat} :
    (link.flush supervisor others connection tickDue).wakeUp = link.wakeUp := by
  unfold flush
  split
  · rfl
  · split <;> rfl

/-- On an open connection at rest that writes nothing the queue is empty: a
frame that waited there would have left a wake-up behind. -/
theorem outbound_eq_nil_of_atRest (orderly : link.Orderly)
    (connected : link.condition = .connected) (silent : link.writes = false)
    (rest : link.AtRest) : link.outbound = [] := by
  cases shape : link.supervisors with
  | nil => exact absurd connected (orderly.unserved shape)
  | cons first others =>
      obtain ⟨speaks, rfl⟩ := alone_of_connected orderly shape connected
      have fits := orderly.fits shape
      unfold Supervisor.Fits at fits
      cases phase : first.phase with
      | online connection tickDue stage =>
          cases stage with
          | idle =>
              simp only [phase, speaks, Bool.false_eq_true, if_false] at fits
              cases queue : link.outbound with
              | nil => rfl
              | cons frame queued =>
                  have woken : link.wakeUp = true := fits.2.2 (by simp [queue])
                  have taken : (link.step .wake).wakeUp = false := by
                    simp [step, shape, stepOf, phase, idleStep, speaks, woken,
                      wakeUp_flush]
                  rw [rest .wake (by simp), woken] at taken
                  exact absurd taken (by simp)
          | writing frame => simp [writes, shape, phase] at silent
          | _ => simp [phase, speaks] at fits
      | stranded => simp [phase] at fits
      | _ => simp_all

/-- At every moment of a run the frames written, in the hands of supervisors and
queued are together all frames that joined the queue, in order.  Nothing stays
queued on an open connection at rest. -/
theorem written_append_held_append_outbound {plan : LinkPlan}
    (interval : 0 < plan.keepAliveInterval) (actions : List Action) :
    let link := ({ plan } : Link).run actions
    link.written ++ link.held ++ link.outbound
        = ({ plan } : Link).enqueued actions ∧
      (link.condition = .connected → link.writes = false → link.AtRest →
        link.outbound = []) := by
  intro link
  refine ⟨?_, outbound_eq_nil_of_atRest (orderly_run interval actions)⟩
  have whole := ledger_run (orderly_start interval) actions
  simpa [ledger, written, held] using whole

/-- A frame that could not be written when the link was closed is the first that
the next connection writes; with the last frame written nothing is left. -/
theorem written_append_held_append_outbound_reopened :
    let plan : LinkPlan := ⟨"ws://portal/S1", ⟨"S1"⟩, 1000, 60000, none⟩
    let reopening : List Action :=
      [.connect, .react .turn, .react .accepted, .send "a", .react .wake, .close,
        .connect, .send "b", .react (.writeFailed .connectionClosed), .react .turn,
        .react .accepted]
    let actions := reopening ++ [.react .wrote, .react .wrote, .react .wake]
    let reopened := ({ plan } : Link).run reopening
    let link := ({ plan } : Link).run actions
    0 < plan.keepAliveInterval ∧
      reopened.held = ["a"] ∧ reopened.outbound = ["b"] ∧
      link.written ++ link.held ++ link.outbound = ["a", "b"] ∧
      link.condition = .connected ∧ link.writes = false ∧ link.AtRest ∧
      link.outbound = [] := by
  intro plan reopening actions reopened link
  obtain ⟨whole, empty⟩ :=
    @written_append_held_append_outbound plan (by decide) actions
  have connected : link.condition = .connected := by decide
  have silent : link.writes = false := by decide
  have rest : link.AtRest := by
    intro stimulus member
    simp only [List.mem_cons, List.not_mem_nil, or_false] at member
    rcases member with rfl | rfl | rfl <;> decide
  exact ⟨by decide, by decide, by decide, whole.trans (by decide), connected,
    silent, rest, empty connected silent rest⟩

end Link

end PageSession
