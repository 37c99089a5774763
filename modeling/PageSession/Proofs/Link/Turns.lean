import PageSession.Proofs.Link.Run

/-!
# Supervisors take turns

Of the supervisors that have not ended only the first has left its waiting
phase, and only the last can speak for the link.  What phase the first is in
tells where the link stands, whether frames may have been handed over, and
whether a queue that is not empty is about to be written.

Every action keeps this, as long as ticks have an interval.
-/

namespace PageSession

/-- What the phase of the first supervisor says of the link. -/
def Supervisor.Fits (supervisor : Supervisor) (link : Link) : Prop :=
  match supervisor.phase with
  | .waiting | .attempting | .delaying _ =>
      supervisor.parting = [] ∧ link.condition ≠ .connected
  | .online _ _ .idle =>
      if supervisor.dismissed then link.condition ≠ .connected
      else supervisor.parting = [] ∧ link.condition = .connected ∧
        (link.outbound ≠ [] → link.wakeUp = true)
  | .online _ _ (.writing _) =>
      if supervisor.dismissed then link.condition ≠ .connected
      else supervisor.parting = [] ∧ link.condition = .connected
  | .online _ _ _ =>
      supervisor.dismissed = true ∧ supervisor.parting = [] ∧
        link.condition ≠ .connected
  | .stranded => False

/-- The first supervisor and those behind it. -/
structure Supervisor.Leads (first : Supervisor) (others : List Supervisor) :
    Prop where
  /-- Nobody behind the first has begun. -/
  behind : ∀ other, other ∈ others →
    other.phase = .waiting ∧ other.parting = []
  /-- Only the last can speak for the link. -/
  superseded : ∀ other, other ∈ (first :: others).dropLast →
    other.dismissed = true

namespace Supervisor.Leads

variable {first : Supervisor} {others : List Supervisor}

theorem alone (first : Supervisor) : Leads first [] := by
  constructor <;> simp

theorem dismissed (leads : Leads first others) (more : others ≠ []) :
    first.dismissed = true :=
  leads.superseded first (by simp [List.dropLast_cons_of_ne_nil more])

theorem replace {next : Supervisor} (leads : Leads first others)
    (dismissed : first.dismissed = true → next.dismissed = true) :
    Leads next others := by
  refine ⟨leads.behind, ?_⟩
  intro other member
  cases others with
  | nil => simp at member
  | cons second others =>
      simp only [List.dropLast_cons_cons, List.mem_cons] at member
      rcases member with rfl | member
      · exact dismissed (leads.dismissed (by simp))
      · exact leads.superseded other (by simp [member])

theorem tail {second : Supervisor}
    (leads : Leads first (second :: others)) : Leads second others := by
  refine ⟨fun other member => leads.behind other (by simp [member]), ?_⟩
  intro other member
  exact leads.superseded other (by simp [member])

theorem alone_of_not_dismissed (leads : Leads first others)
    (speaks : first.dismissed = false) : others = [] := by
  cases others with
  | nil => rfl
  | cons second others => simp [leads.dismissed (by simp)] at speaks

/-- One more supervisor joins those behind one that was dismissed. -/
theorem append {newcomer : Supervisor} (leads : Leads first others)
    (fresh : newcomer.phase = .waiting ∧ newcomer.parting = [])
    (dismissed : ∀ other, other ∈ first :: others → other.dismissed = true) :
    Leads first (others ++ [newcomer]) := by
  refine ⟨?_, ?_⟩
  · intro other member
    rcases List.mem_append.mp member with member | member
    · exact leads.behind other member
    · rw [List.mem_singleton.mp member]
      exact fresh
  · intro other member
    rw [← List.cons_append, List.dropLast_concat] at member
    exact dismissed other member

end Supervisor.Leads

namespace Link

/-- The supervisors of a link take turns. -/
structure Orderly (link : Link) : Prop where
  interval : 0 < link.plan.keepAliveInterval
  unserved : link.supervisors = [] → link.condition ≠ .connected
  leads : ∀ {first others}, link.supervisors = first :: others →
    first.Leads others
  fits : ∀ {first others}, link.supervisors = first :: others →
    first.Fits link

variable {link : Link} {supervisor : Supervisor} {others : List Supervisor}

theorem orderly_of_cons (interval : 0 < link.plan.keepAliveInterval)
    (shape : link.supervisors = supervisor :: others)
    (leads : supervisor.Leads others) (fits : supervisor.Fits link) :
    link.Orderly := by
  refine ⟨interval, by simp [shape], ?_, ?_⟩
  · intro first rest equality
    rw [shape] at equality
    cases equality
    exact leads
  · intro first rest equality
    rw [shape] at equality
    cases equality
    exact fits

/-! ## What a supervisor does -/

theorem orderly_conclude (interval : 0 < link.plan.keepAliveInterval)
    (leads : supervisor.Leads others) (away : link.condition ≠ .connected) :
    (link.conclude supervisor others).Orderly := by
  cases others with
  | nil => exact ⟨interval, fun _ => away, by simp [conclude], by simp [conclude]⟩
  | cons second others =>
      obtain ⟨waiting, nothing⟩ := leads.behind second (by simp)
      refine orderly_of_cons interval rfl leads.tail ?_
      simp only [Supervisor.Fits, waiting]
      exact ⟨nothing, away⟩

theorem orderly_proceed {phase : Phase}
    (interval : 0 < link.plan.keepAliveInterval)
    (leads : supervisor.Leads others)
    (fits : ({ supervisor with phase } : Supervisor).Fits link) :
    (link.proceed supervisor others phase).Orderly :=
  orderly_of_cons interval rfl (leads.replace id) fits

theorem orderly_attempt (interval : 0 < link.plan.keepAliveInterval)
    (leads : supervisor.Leads others)
    (nothing : supervisor.parting = []) (away : link.condition ≠ .connected) :
    (link.attempt supervisor others).Orderly :=
  orderly_of_cons interval rfl (leads.replace id) ⟨nothing, away⟩

/-- Writing the queue leaves the link in order whatever is queued. -/
theorem orderly_flush {connection tickDue : Nat}
    (interval : 0 < link.plan.keepAliveInterval)
    (leads : supervisor.Leads others)
    (dismissed : supervisor.dismissed = true → link.condition ≠ .connected)
    (speaks : supervisor.dismissed = false →
      supervisor.parting = [] ∧ link.condition = .connected) :
    (link.flush supervisor others connection tickDue).Orderly := by
  unfold flush
  cases flag : supervisor.dismissed with
  | true =>
      refine orderly_proceed interval leads ?_
      simp [Supervisor.Fits, flag, dismissed flag]
  | false =>
      obtain ⟨nothing, connected⟩ := speaks flag
      cases queue : link.outbound with
      | nil =>
          refine orderly_proceed interval leads ?_
          simp [Supervisor.Fits, flag, nothing, connected, queue]
      | cons frame rest =>
          refine orderly_proceed interval leads ?_
          simp [Supervisor.Fits, flag, nothing, connected]

theorem orderly_retreat (interval : 0 < link.plan.keepAliveInterval)
    (leads : supervisor.Leads others)
    (dismissed : supervisor.dismissed = true → link.condition ≠ .connected)
    (speaks : supervisor.dismissed = false → supervisor.parting = []) :
    (link.retreat supervisor others).Orderly := by
  unfold retreat
  cases flag : supervisor.dismissed with
  | true => exact orderly_conclude interval leads (dismissed flag)
  | false =>
      refine orderly_proceed interval leads ?_
      simp [Supervisor.Fits, speaks flag]

theorem orderly_lose {connection : Nat} {error : LinkError}
    (interval : 0 < link.plan.keepAliveInterval)
    (leads : supervisor.Leads others)
    (dismissed : supervisor.dismissed = true → link.condition ≠ .connected)
    (speaks : supervisor.dismissed = false → supervisor.parting = []) :
    (link.lose supervisor others connection error).Orderly :=
  orderly_retreat interval leads dismissed speaks

theorem orderly_openConnection (interval : 0 < link.plan.keepAliveInterval)
    (leads : supervisor.Leads others)
    (speaks : supervisor.dismissed = false) (nothing : supervisor.parting = []) :
    (link.openConnection supervisor others).Orderly := by
  have ticks : link.plan.keepAliveInterval ≠ 0 := Nat.ne_of_gt interval
  simp only [openConnection, plan_report, ticks, if_false]
  refine orderly_flush interval (leads.replace id) ?_ ?_
  · simp [speaks]
  · simp [nothing]

theorem orderly_refuse {error : LinkError}
    (interval : 0 < link.plan.keepAliveInterval)
    (leads : supervisor.Leads others)
    (nothing : supervisor.parting = []) (away : link.condition ≠ .connected) :
    (link.refuse supervisor others error).Orderly :=
  orderly_retreat interval leads (fun _ => away) (fun _ => nothing)

theorem orderly_depart {connection tickDue : Nat}
    (interval : 0 < link.plan.keepAliveInterval)
    (leads : supervisor.Leads others)
    (dismissed : supervisor.dismissed = true)
    (away : link.condition ≠ .connected) (frames : List String) :
    (link.depart supervisor others connection tickDue frames).Orderly := by
  cases frames with
  | nil => exact orderly_of_cons interval rfl (leads.replace id) ⟨dismissed, rfl, away⟩
  | cons frame rest =>
      exact orderly_of_cons interval rfl (leads.replace id) ⟨dismissed, rfl, away⟩

theorem orderly_suspend {connection tickDue : Nat}
    (interval : 0 < link.plan.keepAliveInterval)
    (leads : supervisor.Leads others) (nothing : supervisor.parting = []) :
    (link.suspend supervisor others connection tickDue).Orderly := by
  refine orderly_of_cons interval rfl (leads.replace fun _ => rfl) ?_
  exact ⟨rfl, nothing, by simp [suspend, proceed]⟩

theorem orderly_tick {connection tickDue : Nat}
    (interval : 0 < link.plan.keepAliveInterval)
    (leads : supervisor.Leads others)
    (speaks : supervisor.dismissed = false)
    (nothing : supervisor.parting = [])
    (connected : link.condition = .connected) :
    (link.tick supervisor others connection tickDue).Orderly := by
  unfold tick
  simp only
  split
  · exact orderly_flush interval leads (by simp [speaks])
      (fun _ => ⟨nothing, connected⟩)
  · split
    · exact orderly_suspend interval leads nothing
    · exact orderly_flush interval leads (by simp [speaks])
        (fun _ => ⟨nothing, connected⟩)

/-! ## What happens to the first supervisor -/

theorem orderly_idleStep {connection tickDue : Nat} (orderly : link.Orderly)
    (shape : link.supervisors = supervisor :: others)
    (phase : supervisor.phase = .online connection tickDue .idle)
    (stimulus : Stimulus) :
    (link.idleStep supervisor others connection tickDue stimulus).Orderly := by
  have leads := orderly.leads shape
  have fits := orderly.fits shape
  simp only [Supervisor.Fits, phase] at fits
  unfold idleStep
  cases flag : supervisor.dismissed with
  | true =>
      simp only [flag, if_true] at fits
      exact orderly_depart orderly.interval leads flag fits supervisor.parting
  | false =>
      simp only [flag, Bool.false_eq_true, if_false] at fits ⊢
      obtain ⟨nothing, connected, _⟩ := fits
      cases stimulus with
      | handled =>
          exact orderly_flush orderly.interval leads (by simp [flag])
            (fun _ => ⟨nothing, connected⟩)
      | readFailed error =>
          exact orderly_lose orderly.interval leads (by simp [flag])
            (fun _ => nothing)
      | wake =>
          simp only
          split
          · exact orderly_flush orderly.interval leads (by simp [flag])
              (fun _ => ⟨nothing, connected⟩)
          · exact orderly
      | tick =>
          simp only
          split
          · exact orderly_tick orderly.interval leads flag nothing connected
          · exact orderly
      | _ => exact orderly

theorem orderly_writingStep {connection tickDue : Nat} {frame : String}
    (orderly : link.Orderly)
    (shape : link.supervisors = supervisor :: others)
    (phase : supervisor.phase = .online connection tickDue (.writing frame))
    (stimulus : Stimulus) :
    (link.writingStep supervisor others connection tickDue frame
      stimulus).Orderly := by
  have leads := orderly.leads shape
  have fits := orderly.fits shape
  simp only [Supervisor.Fits, phase] at fits
  unfold writingStep
  cases flag : supervisor.dismissed with
  | true =>
      simp only [flag, if_true] at fits
      cases stimulus with
      | wrote =>
          exact orderly_flush orderly.interval leads (fun _ => fits)
            (by simp [flag])
      | writeFailed error =>
          exact orderly_lose orderly.interval (leads.replace fun _ => rfl)
            (fun _ => fits) (by simp)
      | _ => exact orderly
  | false =>
      simp only [flag, Bool.false_eq_true, if_false] at fits ⊢
      obtain ⟨nothing, connected⟩ := fits
      cases stimulus with
      | wrote =>
          exact orderly_flush orderly.interval leads (by simp [flag])
            (fun _ => ⟨nothing, connected⟩)
      | writeFailed error =>
          exact orderly_lose orderly.interval leads (by simp [flag])
            (fun _ => nothing)
      | _ => exact orderly

theorem orderly_partingStep {connection tickDue : Nat} {frame : String}
    {rest : List String} (orderly : link.Orderly)
    (shape : link.supervisors = supervisor :: others)
    (phase : supervisor.phase = .online connection tickDue (.parting frame rest))
    (stimulus : Stimulus) :
    (link.partingStep supervisor others connection tickDue frame rest
      stimulus).Orderly := by
  have leads := orderly.leads shape
  have fits := orderly.fits shape
  simp only [Supervisor.Fits, phase] at fits
  obtain ⟨dismissed, _, away⟩ := fits
  unfold partingStep
  cases stimulus with
  | wrote =>
      refine orderly_depart ?_ leads dismissed ?_ rest
      · exact orderly.interval
      · exact away
  | writeFailed error =>
      exact orderly_conclude orderly.interval (leads.replace id) away
  | _ => exact orderly

theorem orderly_stepOf (orderly : link.Orderly)
    (shape : link.supervisors = supervisor :: others) (stimulus : Stimulus) :
    (link.stepOf supervisor others stimulus).Orderly := by
  have leads := orderly.leads shape
  have fits := orderly.fits shape
  unfold stepOf
  cases phase : supervisor.phase with
  | waiting =>
      simp only [Supervisor.Fits, phase] at fits
      obtain ⟨nothing, away⟩ := fits
      cases stimulus with
      | turn =>
          simp only
          split
          · exact orderly_conclude orderly.interval leads away
          · exact orderly_attempt orderly.interval leads nothing away
      | _ => exact orderly
  | attempting =>
      simp only [Supervisor.Fits, phase] at fits
      obtain ⟨nothing, away⟩ := fits
      cases flag : supervisor.dismissed with
      | true => exact orderly_conclude orderly.interval leads away
      | false =>
          cases stimulus with
          | accepted =>
              exact orderly_openConnection orderly.interval leads flag nothing
          | refused error =>
              exact orderly_refuse orderly.interval leads nothing away
          | _ => exact orderly
  | delaying due =>
      simp only [Supervisor.Fits, phase] at fits
      obtain ⟨nothing, away⟩ := fits
      cases flag : supervisor.dismissed with
      | true => exact orderly_conclude orderly.interval leads away
      | false =>
          cases stimulus with
          | delayOver =>
              simp only [Bool.false_eq_true, if_false]
              split
              · exact orderly_attempt orderly.interval leads nothing (by simp)
              · exact orderly
          | _ => exact orderly
  | online connection tickDue stage =>
      cases stage with
      | idle => exact orderly_idleStep orderly shape phase stimulus
      | writing frame => exact orderly_writingStep orderly shape phase stimulus
      | parting frame rest => exact orderly_partingStep orderly shape phase stimulus
      | leaving =>
          simp only [Supervisor.Fits, phase] at fits
          cases stimulus with
          | wrote => exact orderly_proceed orderly.interval leads fits
          | writeFailed error => exact orderly_proceed orderly.interval leads fits
          | _ => exact orderly
      | closing =>
          simp only [Supervisor.Fits, phase] at fits
          cases stimulus with
          | closed => exact orderly_conclude orderly.interval leads fits.2.2
          | _ => exact orderly
      | suspending =>
          simp only [Supervisor.Fits, phase] at fits
          cases stimulus with
          | closed => exact orderly_conclude orderly.interval leads fits.2.2
          | _ => exact orderly
  | stranded => exact orderly

theorem orderly_step (orderly : link.Orderly) (stimulus : Stimulus) :
    (link.step stimulus).Orderly := by
  unfold step
  split
  · exact orderly
  · next first others shape => exact orderly_stepOf orderly shape stimulus

/-! ## What the page does -/

/-- Nobody serves the link if all supervisors were dismissed. -/
theorem served_eq_false_iff :
    link.served = false ↔
      ∀ other, other ∈ link.supervisors → other.dismissed = true := by
  simp [served]

theorem connect_of_served (served : link.served = true) :
    link.connect = { link with requested := true } := by
  simp [connect, served]

section Unserved

variable (unserved : link.served = false)

include unserved

theorem plan_connect_of_unserved : link.connect.plan = link.plan := by
  simp [connect, unserved]

theorem condition_connect_of_unserved :
    link.connect.condition = .connecting := by
  simp [connect, unserved]

theorem outbound_connect_of_unserved :
    link.connect.outbound = link.outbound := by
  simp [connect, unserved]

theorem supervisors_connect_of_unserved :
    link.connect.supervisors
      = link.supervisors ++ [{ serial := link.started }] := by
  simp [connect, unserved, report]

end Unserved

theorem orderly_connect (orderly : link.Orderly) : link.connect.Orderly := by
  cases serving : link.served with
  | true =>
      rw [connect_of_served serving]
      exact ⟨orderly.interval, orderly.unserved, orderly.leads, orderly.fits⟩
  | false =>
      have interval : 0 < link.connect.plan.keepAliveInterval := by
        rw [plan_connect_of_unserved serving]
        exact orderly.interval
      have connecting := condition_connect_of_unserved serving
      have joined := supervisors_connect_of_unserved serving
      have dismissed := served_eq_false_iff.mp serving
      cases shape : link.supervisors with
      | nil =>
          rw [shape] at joined
          refine orderly_of_cons interval joined (.alone _) ?_
          simp [Supervisor.Fits, connecting]
      | cons first others =>
          rw [shape] at joined dismissed
          refine orderly_of_cons interval joined
            ((orderly.leads shape).append ⟨rfl, rfl⟩ dismissed) ?_
          have ended : first.dismissed = true := dismissed first (by simp)
          have fits := orderly.fits shape
          unfold Supervisor.Fits at fits ⊢
          split at fits <;> simp_all

section Dismissal

variable (frames : List String) (supervisor : Supervisor)

@[simp] theorem dismissed_dismiss :
    (dismiss frames supervisor).dismissed = true := by
  cases flag : supervisor.dismissed <;> simp [dismiss, flag]

@[simp] theorem phase_dismiss :
    (dismiss frames supervisor).phase = supervisor.phase := by
  cases flag : supervisor.dismissed <;> simp [dismiss, flag]

theorem parting_dismiss :
    (dismiss frames supervisor).parting
      = if supervisor.dismissed then supervisor.parting
        else supervisor.parting ++ frames := by
  cases flag : supervisor.dismissed <;> simp [dismiss, flag]

end Dismissal

theorem away_of_dismissed (fits : supervisor.Fits link)
    (dismissed : supervisor.dismissed = true) :
    link.condition ≠ .connected := by
  unfold Supervisor.Fits at fits
  split at fits <;> simp_all

/-- Frames are handed over only on an open connection, and then the first
supervisor is the only one. -/
theorem alone_of_connected (orderly : link.Orderly)
    (shape : link.supervisors = supervisor :: others)
    (connected : link.condition = .connected) :
    supervisor.dismissed = false ∧ others = [] := by
  cases flag : supervisor.dismissed with
  | true => exact absurd connected (away_of_dismissed (orderly.fits shape) flag)
  | false => exact ⟨rfl, (orderly.leads shape).alone_of_not_dismissed flag⟩

theorem leads_dismiss {frames : List String}
    (leads : supervisor.Leads others) (few : frames = [] ∨ others = []) :
    (dismiss frames supervisor).Leads (others.map (dismiss frames)) := by
  refine ⟨?_, ?_⟩
  · intro other member
    obtain ⟨source, sourceMember, rfl⟩ := List.mem_map.mp member
    obtain ⟨waiting, nothing⟩ := leads.behind source sourceMember
    rcases few with rfl | rfl
    · simp [parting_dismiss, waiting, nothing]
    · simp at sourceMember
  · intro other member
    have mapped : other ∈ (supervisor :: others).map (dismiss frames) :=
      List.dropLast_subset _ (by simpa using member)
    obtain ⟨source, _, rfl⟩ := List.mem_map.mp mapped
    exact dismissed_dismiss frames source

theorem fits_dismiss {closed : Link} {frames : List String}
    (fits : supervisor.Fits link)
    (handed : link.condition ≠ .connected → frames = [])
    (away : closed.condition ≠ .connected) :
    (dismiss frames supervisor).Fits closed := by
  unfold Supervisor.Fits at fits ⊢
  simp only [phase_dismiss, dismissed_dismiss, parting_dismiss, if_true]
  split at fits <;> simp_all

theorem filter_stranded (orderly : link.Orderly) :
    link.supervisors.filter (!isStranded ·) = link.supervisors := by
  refine List.filter_eq_self.mpr ?_
  intro other member
  cases shape : link.supervisors with
  | nil => simp [shape] at member
  | cons first others =>
      rw [shape] at member
      rcases List.mem_cons.mp member with rfl | member
      · have fits := orderly.fits shape
        unfold Supervisor.Fits at fits
        unfold isStranded
        split at fits <;> simp_all
      · simp [isStranded, ((orderly.leads shape).behind other member).1]

/-- The frames that closing hands over. -/
def handedOver (link : Link) : List String :=
  if link.condition == .connected then link.outbound else []

theorem close_of_unserved (unserved : link.served = false) :
    link.close = { link with requested := false, condition := .disconnected } := by
  have none : link.supervisors.find? (!·.dismissed) = none := by
    simpa [served] using unserved
  simp [close, none]

theorem exists_speaker (serving : link.served = true) :
    ∃ speaker, link.supervisors.find? (!·.dismissed) = some speaker := by
  simpa [served, ← Option.isSome_iff_exists, List.find?_isSome] using serving

/-- A link that is served dismisses all its supervisors when it is closed. -/
theorem supervisors_close_of_served (orderly : link.Orderly)
    (serving : link.served = true) :
    link.close.supervisors
      = link.supervisors.map (dismiss link.handedOver) := by
  have kept := filter_stranded orderly
  obtain ⟨speaker, found⟩ := exists_speaker serving
  simp [close, found, kept, handedOver]

theorem outbound_close_of_served (serving : link.served = true) :
    link.handedOver ++ link.close.outbound = link.outbound := by
  obtain ⟨speaker, found⟩ := exists_speaker serving
  simp only [close, found, handedOver]
  split <;> simp_all

@[simp] theorem plan_close : link.close.plan = link.plan := by
  unfold close
  split <;> rfl

@[simp] theorem condition_close : link.close.condition = .disconnected := by
  unfold close
  split <;> rfl

@[simp] theorem written_close : link.close.written = link.written := by
  unfold close
  split
  · rfl
  · simp [Report.writtenFrame?]
    rfl

theorem orderly_close (orderly : link.Orderly) : link.close.Orderly := by
  cases serving : link.served with
  | false =>
      rw [close_of_unserved serving]
      refine ⟨orderly.interval, fun _ => by simp, orderly.leads, ?_⟩
      intro first others shape
      have fits := orderly.fits shape
      have ended : first.dismissed = true :=
        served_eq_false_iff.mp serving first (by simp_all)
      unfold Supervisor.Fits at fits ⊢
      split at fits <;> simp_all
  | true =>
      have interval : 0 < link.close.plan.keepAliveInterval := by
        simpa using orderly.interval
      have dismissed := supervisors_close_of_served orderly serving
      cases shape : link.supervisors with
      | nil => simp [served, shape] at serving
      | cons first others =>
          rw [shape, List.map_cons] at dismissed
          have few : link.handedOver = [] ∨ others = [] := by
            by_cases connected : link.condition = .connected
            · exact .inr (alone_of_connected orderly shape connected).2
            · exact .inl (by simp [handedOver, connected])
          refine orderly_of_cons interval dismissed
            (leads_dismiss (orderly.leads shape) few) ?_
          refine fits_dismiss (orderly.fits shape) ?_ (by simp)
          intro away
          simp [handedOver, away]

theorem orderly_send (orderly : link.Orderly) (frame : String) :
    (link.send frame).Orderly := by
  refine ⟨orderly.interval, orderly.unserved, orderly.leads, ?_⟩
  intro first others shape
  have fits := orderly.fits shape
  have sent : (link.send frame).condition = link.condition := rfl
  have woken : (link.send frame).wakeUp = true := rfl
  unfold Supervisor.Fits at fits ⊢
  rw [sent, woken]
  cases flag : first.dismissed <;> split at fits <;> simp_all

theorem orderly_elapse (orderly : link.Orderly) (milliseconds : Nat) :
    (link.elapse milliseconds).Orderly :=
  ⟨orderly.interval, orderly.unserved, orderly.leads, orderly.fits⟩

/-! ## Whole runs -/

theorem orderly_perform (orderly : link.Orderly) (action : Action) :
    (link.perform action).Orderly := by
  cases action with
  | connect => exact orderly_connect orderly
  | close => exact orderly_close orderly
  | send frame => exact orderly_send orderly frame
  | elapse milliseconds => exact orderly_elapse orderly milliseconds
  | react stimulus => exact orderly_step orderly stimulus

theorem orderly_start {plan : LinkPlan} (interval : 0 < plan.keepAliveInterval) :
    ({ plan } : Link).Orderly :=
  ⟨interval, fun _ => by simp, by simp, by simp⟩

/-- The supervisors take turns in every run. -/
theorem orderly_run {plan : LinkPlan} (interval : 0 < plan.keepAliveInterval)
    (actions : List Action) : (({ plan } : Link).run actions).Orderly :=
  run_induction (motive := Orderly)
    (fun _ action orderly => orderly_perform orderly action)
    (orderly_start interval) actions

end Link

end PageSession
