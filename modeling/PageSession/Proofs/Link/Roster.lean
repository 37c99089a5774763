import PageSession.Proofs.Link.Moves

/-!
# The supervisors on the roster

Of the supervisors that have not ended each was started before those behind it.
Only the first has begun, only the last can speak for the link, and it does
exactly while a connection is requested.

Every action keeps this, whether or not ticks have an interval.
-/

namespace PageSession.Link

variable {link next : Link} {supervisor : Supervisor} {others : List Supervisor}
  {stimulus : Stimulus} {action : Action}

/-! ## The supervisor on record -/

/-- A supervisor is on record exactly while a connection is requested, and only
then is there a connection or an attempt to make one. -/
structure Recorded (link : Link) : Prop where
  requested : link.served = link.requested
  condition : link.condition ≠ .disconnected → link.served = true

theorem recorded_start (plan : LinkPlan) : ({ plan } : Link).Recorded :=
  ⟨rfl, by simp⟩

theorem recorded_request (recorded : link.Recorded)
    (request : Request link action next) : next.Recorded := by
  obtain ⟨requested, condition⟩ := recorded
  cases request with
  | confirm serving => exact ⟨serving, fun _ => serving⟩
  | start unserved => exact ⟨by simp [served], fun _ => by simp [served]⟩
  | cancel unserved => exact ⟨unserved, by simp⟩
  | close serial serving => exact ⟨by simp [served], by simp⟩
  | send frame => exact ⟨requested, condition⟩
  | elapse milliseconds => exact ⟨requested, condition⟩

theorem recorded_of_speaks (shape : next.supervisors = supervisor :: others)
    (speaks : supervisor.dismissed = false) (wanted : next.requested = true) :
    next.Recorded := by
  have serving : next.served = true := by simp [served, shape, speaks]
  exact ⟨serving.trans wanted.symm, fun _ => serving⟩

theorem Recorded.requested_of_speaks (recorded : link.Recorded)
    (shape : link.supervisors = supervisor :: others)
    (speaks : supervisor.dismissed = false) : link.requested = true := by
  rw [← recorded.requested]
  simp [served, shape, speaks]

theorem Recorded.dismissed_of_unwanted (recorded : link.Recorded)
    (unwanted : link.requested = false) :
    ∀ other ∈ link.supervisors, other.dismissed = true :=
  served_eq_false_iff.mp (recorded.requested.trans unwanted)

/-- An effort keeps its supervisor on record, unless it suspends the session;
then nobody is. -/
theorem recorded_effort (recorded : link.Recorded)
    (shape : link.supervisors = supervisor :: others)
    (alone : others = []) (speaks : supervisor.dismissed = false)
    (effort : Effort link supervisor others next) : next.Recorded := by
  have wanted := recorded.requested_of_speaks shape speaks
  cases effort with
  | stay => exact recorded
  | suspend due phase => exact ⟨by simp [served, alone], by simp⟩
  | _ => exact recorded_of_speaks rfl speaks wanted

/-- A farewell leaves alone what the page can ask about. -/
theorem farewell_unseen (farewell : Farewell link supervisor others stimulus next) :
    next.condition = link.condition ∧ next.requested = link.requested := by
  cases farewell <;> exact ⟨rfl, rfl⟩

theorem served_farewell (shape : link.supervisors = supervisor :: others)
    (dismissed : supervisor.dismissed = true)
    (farewell : Farewell link supervisor others stimulus next) :
    next.served = link.served := by
  cases farewell <;> simp [served, shape, dismissed]

theorem recorded_move (recorded : link.Recorded)
    (shape : link.supervisors = supervisor :: others)
    (alone : supervisor.dismissed = false → others = [])
    (move : Move link supervisor others stimulus next) : next.Recorded := by
  cases move with
  | effort speaks effort =>
      exact recorded_effort recorded shape (alone speaks) speaks effort
  | farewell dismissed farewell =>
      obtain ⟨condition, requested⟩ := farewell_unseen farewell
      have serving := served_farewell shape dismissed farewell
      refine ⟨by rw [serving, requested, recorded.requested], ?_⟩
      rw [serving, condition]
      exact recorded.condition

/-! ## Those on the roster -/

/-- One supervisor stands before another. -/
structure Precedes (earlier later : Supervisor) : Prop where
  superseded : earlier.dismissed = true
  waiting : later.phase = .waiting
  ascending : earlier.serial < later.serial

/-- The supervisors stand in the order of their start, and whether one speaks for
the link is on record. -/
structure Manned (link : Link) : Prop where
  turns : link.supervisors.Pairwise Precedes
  supervised : ∀ other ∈ link.supervisors, Supervised other
  started : ∀ other ∈ link.supervisors, other.serial < link.started
  recorded : link.Recorded

theorem manned_start (plan : LinkPlan) : ({ plan } : Link).Manned :=
  ⟨.nil, by simp, by simp, recorded_start plan⟩

theorem Manned.first (manned : link.Manned) {first : Supervisor}
    {others : List Supervisor} (shape : link.supervisors = first :: others) :
    Supervised first :=
  manned.supervised first (by simp [shape])

theorem Manned.behind (manned : link.Manned)
    (shape : link.supervisors = supervisor :: others) :
    ∀ other ∈ others, Precedes supervisor other := by
  have turns := manned.turns
  rw [shape, List.pairwise_cons] at turns
  exact turns.1

theorem Manned.alone (manned : link.Manned)
    (shape : link.supervisors = supervisor :: others)
    (speaks : supervisor.dismissed = false) : others = [] := by
  apply List.eq_nil_iff_forall_not_mem.mpr
  intro other member
  have superseded := (manned.behind shape other member).superseded
  simp [speaks] at superseded

theorem supervised_of_waiting (waiting : supervisor.phase = .waiting) :
    Supervised supervisor := by
  intro connection tickDue stage phase
  simp [waiting] at phase

theorem precedes_dismiss (frames : List String) {earlier later : Supervisor}
    (precedes : Precedes earlier later) :
    Precedes (dismiss frames earlier) (dismiss frames later) :=
  ⟨dismissed_dismiss .., by simp [precedes.waiting], by simp [precedes.ascending]⟩

theorem manned_request (manned : link.Manned) (request : Request link action next) :
    next.Manned := by
  have recorded := recorded_request manned.recorded request
  obtain ⟨turns, supervised, started, _⟩ := manned
  cases request with
  | start unserved =>
      have dismissed := served_eq_false_iff.mp unserved
      refine ⟨?_, ?_, ?_, recorded⟩
      · refine List.pairwise_append.mpr ⟨turns, List.pairwise_singleton .., ?_⟩
        intro earlier member newcomer last
        rw [List.mem_singleton.mp last]
        exact ⟨dismissed earlier member, rfl, started earlier member⟩
      · intro other member
        rcases List.mem_append.mp member with member | newcomer
        · exact supervised other member
        · rw [List.mem_singleton.mp newcomer]
          exact supervised_of_waiting rfl
      · intro other member
        rcases List.mem_append.mp member with member | newcomer
        · exact Nat.lt_succ_of_lt (started other member)
        · rw [List.mem_singleton.mp newcomer]
          exact Nat.lt_succ_self _
  | close serial serving =>
      refine ⟨?_, ?_, ?_, recorded⟩
      · refine List.pairwise_map.mpr ((turns.filter _).imp ?_)
        exact precedes_dismiss link.handedOver
      · intro other member
        obtain ⟨source, _, rfl⟩ := List.mem_map.mp member
        exact fun _ _ => dismissed_dismiss ..
      · intro other member
        obtain ⟨source, kept, rfl⟩ := List.mem_map.mp member
        rw [serial_dismiss]
        exact started source (List.mem_filter.mp kept).1
  | _ => exact ⟨turns, supervised, started, recorded⟩

/-- The first supervisor has ended, or it goes on and is dismissed still if it
was. -/
theorem succession_move (shape : link.supervisors = supervisor :: others)
    (supervised : Supervised supervisor)
    (move : Move link supervisor others stimulus next) :
    next.supervisors = others ∨
      ∃ heir, next.supervisors = heir :: others ∧
        heir.serial = supervisor.serial ∧
        (supervisor.dismissed = true → heir.dismissed = true) ∧
        Supervised heir := by
  cases move with
  | effort speaks effort =>
      cases effort with
      | stay => exact .inr ⟨supervisor, shape, rfl, id, supervised⟩
      | suspend due phase =>
          exact .inr ⟨_, rfl, rfl, fun _ => rfl, fun _ _ => rfl⟩
      | _ =>
          refine .inr ⟨_, rfl, rfl, id, ?_⟩
          cases queue : link.outbound <;> simp_all [Supervised, Stage.taking, Stage.retires]
  | farewell dismissed farewell =>
      cases farewell with
      | stay => exact .inr ⟨supervisor, shape, rfl, id, supervised⟩
      | giveUp _ => exact .inl rfl
      | breakOff _ _ _ => exact .inl rfl
      | abandon _ _ _ => exact .inl rfl
      | release _ _ => exact .inl rfl
      | _ => exact .inr ⟨_, rfl, rfl, id, fun _ _ => dismissed⟩

theorem started_move (move : Move link supervisor others stimulus next) :
    next.started = link.started := by
  cases move with
  | effort _ effort => cases effort <;> rfl
  | farewell _ farewell => cases farewell <;> rfl

theorem manned_move (manned : link.Manned)
    (shape : link.supervisors = supervisor :: others)
    (move : Move link supervisor others stimulus next) : next.Manned := by
  have recorded := recorded_move manned.recorded shape (manned.alone shape) move
  have behind := manned.behind shape
  obtain ⟨turns, supervised, started, _⟩ := manned
  simp only [shape, List.pairwise_cons, List.forall_mem_cons] at turns supervised started
  rw [← started_move move] at started
  rcases succession_move shape supervised.1 move with
    ended | ⟨heir, leading, serial, lasting, supervision⟩
  · exact ⟨ended ▸ turns.2, ended ▸ supervised.2, ended ▸ started.2, recorded⟩
  · refine ⟨?_, ?_, ?_, recorded⟩
    · rw [leading, List.pairwise_cons]
      refine ⟨fun other member => ?_, turns.2⟩
      obtain ⟨superseded, waiting, ascending⟩ := behind other member
      exact ⟨lasting superseded, waiting, serial ▸ ascending⟩
    · rw [leading, List.forall_mem_cons]
      exact ⟨supervision, supervised.2⟩
    · rw [leading, List.forall_mem_cons, serial]
      exact started

theorem manned_perform (manned : link.Manned) (action : Action) :
    (link.perform action).Manned := by
  have change := change_perform manned.first action
  generalize link.perform action = next at change ⊢
  cases change with
  | request request => exact manned_request manned request
  | move shape move => exact manned_move manned shape move
  | rest _ => exact manned

theorem Manned.run (manned : link.Manned) (actions : List Action) :
    (link.run actions).Manned :=
  run_induction (motive := Manned)
    (fun _ action manned => manned_perform manned action) manned actions

theorem Manned.plan_run (manned : link.Manned) (actions : List Action) :
    (link.run actions).plan = link.plan := by
  induction actions generalizing link with
  | nil => rfl
  | cons action actions induction =>
      have further := induction (manned_perform manned action)
      exact further.trans (plan_perform manned.first action)

theorem manned_run (plan : LinkPlan) (actions : List Action) :
    (({ plan } : Link).run actions).Manned :=
  (manned_start plan).run actions

end PageSession.Link
