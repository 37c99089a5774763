import Mathlib.Data.List.Induction
import PageSession.Proofs.Link.Lifecycle

/-!
# Redundant requests

To ask for a connection while one is requested, or to close a link while none
is, leaves the link as it is, and so everything that follows.  Closing begins a
new generation all the same.  This is never seen: while a connection is
requested a supervisor is dismissed exactly if it is of an older generation, and
a redundant close finds none that was not dismissed.
-/

namespace PageSession.Link

variable {link next : Link} {supervisor : Supervisor} {others : List Supervisor}
  {stimulus : Stimulus} {action : Action} {actions : List Action} {serial : Nat}

/-- The page asks for what is so already. -/
inductive Redundant (link : Link) : Action → Prop
  | connect (wanted : link.requested = true) : Redundant link .connect
  | close (unwanted : link.requested = false) : Redundant link .close

theorem perform_of_redundant (recorded : link.Recorded)
    (redundant : link.Redundant action) : link.perform action = link := by
  cases redundant with
  | connect wanted =>
      have serving : link.served = true := recorded.requested.trans wanted
      rw [perform, connect_of_served serving, ← wanted]
  | close unwanted =>
      have unserved : link.served = false := recorded.requested.trans unwanted
      have away : link.condition = .disconnected := by
        apply Decidable.byContradiction
        intro near
        simp [recorded.condition near] at unserved
      rw [perform, close_of_unserved unserved, ← unwanted, ← away]

/-! ## Generations in a run -/

theorem generation_append (before after : List Action) :
    link.generation (before ++ after) =
      link.generation before + (link.run before).generation after := by
  induction before generalizing link with
  | nil => simp [generation]
  | cons action before induction =>
      rw [List.cons_append, generation, induction, generation, run_cons, Nat.add_assoc]

theorem generation_concat (actions : List Action) (action : Action) :
    link.generation (actions ++ [action]) =
      link.generation actions + if (link.run actions).begins action then 1 else 0 := by
  simp [generation_append, generation]

theorem Superseded.concat (superseded : link.Superseded actions serial)
    (action : Action) : link.Superseded (actions ++ [action]) serial := by
  obtain ⟨before, after, rfl, started, begun⟩ := superseded
  refine ⟨before, after ++ [action], List.append_assoc .., started, ?_⟩
  exact Nat.lt_of_lt_of_le begun (by simp [generation_concat])

theorem superseded_of_begins (started : serial < (link.run actions).started)
    (begins : (link.run actions).begins action = true) :
    link.Superseded (actions ++ [action]) serial :=
  ⟨actions, [action], rfl, started, by simp [generation, begins]⟩

/-- While a connection is requested nobody is dismissed in a move. -/
theorem dismissed_before_move (manned : link.Manned)
    (shape : link.supervisors = supervisor :: others)
    (move : Move link supervisor others stimulus next)
    (wanted : next.requested = true) {other : Supervisor}
    (member : other ∈ next.supervisors) (dismissed : other.dismissed = true) :
    ∃ source ∈ link.supervisors, source.dismissed = true ∧
      source.serial = other.serial := by
  cases move with
  | effort speaks effort =>
      have alone := manned.alone shape speaks
      cases effort with
      | stay => exact ⟨other, member, dismissed, rfl⟩
      | suspend due phase => simp at wanted
      | _ => simp_all
  | farewell gone farewell =>
      rw [shape]
      rcases succession_move shape (manned.first shape) (.farewell gone farewell) with
        ended | ⟨heir, leading, serial, _, _⟩
      · rw [ended] at member
        exact ⟨other, List.mem_cons_of_mem _ member, dismissed, rfl⟩
      · rw [leading] at member
        rcases List.mem_cons.mp member with rfl | behind
        · exact ⟨supervisor, List.mem_cons_self, gone, serial.symm⟩
        · exact ⟨other, List.mem_cons_of_mem _ behind, dismissed, rfl⟩

theorem requested_before_move (recorded : link.Recorded)
    (shape : link.supervisors = supervisor :: others)
    (move : Move link supervisor others stimulus next)
    (wanted : next.requested = true) : link.requested = true := by
  cases move with
  | effort speaks effort => exact recorded.requested_of_speaks shape speaks
  | farewell _ farewell => exact (farewell_unseen farewell).2 ▸ wanted

/-- When a generation begins and a connection is requested then, those dismissed
were started before. -/
theorem old_of_begins (manned : link.Manned) (begins : link.begins action = true)
    (wanted : (link.perform action).requested = true)
    (member : supervisor ∈ (link.perform action).supervisors)
    (dismissed : supervisor.dismissed = true) : supervisor.serial < link.started := by
  cases action with
  | connect =>
      have unserved : link.served = false := by simpa [Link.begins] using begins
      rw [perform, supervisors_connect_of_unserved unserved] at member
      rcases List.mem_append.mp member with old | newcomer
      · exact manned.started supervisor old
      · simp [List.mem_singleton.mp newcomer] at dismissed
  | close =>
      have unwanted := (manned_perform manned .close).recorded.requested
      rw [perform, served_close] at unwanted
      simp [perform, ← unwanted] at wanted
  | _ => simp [Link.begins] at begins

/-- Between two generations nobody is dismissed while a connection is
requested. -/
theorem dismissed_before_perform (manned : link.Manned)
    (lasts : link.begins action = false)
    (wanted : (link.perform action).requested = true)
    (member : supervisor ∈ (link.perform action).supervisors)
    (dismissed : supervisor.dismissed = true) :
    link.requested = true ∧
      ∃ source ∈ link.supervisors, source.dismissed = true ∧
        source.serial = supervisor.serial := by
  have change := change_perform manned.first action
  generalize link.perform action = next at change wanted member
  cases change with
  | request request =>
      cases request with
      | confirm serving =>
          have requested := manned.recorded.requested.symm.trans serving
          exact ⟨requested, supervisor, member, dismissed, rfl⟩
      | start unserved => simp [begins, unserved] at lasts
      | cancel unserved => simp [begins] at lasts
      | close serial serving => simp [begins] at lasts
      | send frame => exact ⟨wanted, supervisor, member, dismissed, rfl⟩
      | elapse milliseconds => exact ⟨wanted, supervisor, member, dismissed, rfl⟩
  | move shape move =>
      exact ⟨requested_before_move manned.recorded shape move wanted,
        dismissed_before_move manned shape move wanted member dismissed⟩
  | rest _ => exact ⟨wanted, supervisor, member, dismissed, rfl⟩

/-- While a connection is requested only those of an older generation are
dismissed. -/
theorem superseded_of_dismissed (plan : LinkPlan) (actions : List Action)
    (wanted : (({ plan } : Link).run actions).requested = true)
    (member : supervisor ∈ (({ plan } : Link).run actions).supervisors)
    (dismissed : supervisor.dismissed = true) :
    ({ plan } : Link).Superseded actions supervisor.serial := by
  -- By induction on the last action: it begins a generation, and then those
  -- dismissed are older, or it has dismissed nobody.
  induction actions using List.reverseRecOn generalizing supervisor with
  | nil => simp at member
  | append_singleton actions action induction =>
      have manned := manned_run plan actions
      rw [run_append, run_cons, run_nil] at wanted member
      cases begins : (({ plan } : Link).run actions).begins action with
      | true =>
          have old := old_of_begins manned begins wanted member dismissed
          exact superseded_of_begins old begins
      | false =>
          obtain ⟨requested, source, known, gone, serial⟩ :=
            dismissed_before_perform manned begins wanted member dismissed
          rw [← serial]
          exact (induction requested known gone).concat action

/-- The supervisors that no longer speak for the link are those that see by the
generation, or by the request, that they are to end. -/
theorem dismissed_iff (plan : LinkPlan) (actions : List Action)
    (member : supervisor ∈ (({ plan } : Link).run actions).supervisors) :
    supervisor.dismissed = true ↔
      ({ plan } : Link).Superseded actions supervisor.serial ∨
        (({ plan } : Link).run actions).requested = false := by
  constructor
  · intro dismissed
    cases wanted : (({ plan } : Link).run actions).requested with
    | false => exact .inr rfl
    | true =>
        exact .inl (superseded_of_dismissed plan actions wanted member dismissed)
  · rintro (superseded | unwanted)
    · exact dismissed_of_superseded (manned_start plan) member superseded
    · have recorded := (manned_run plan actions).recorded
      exact recorded.dismissed_of_unwanted unwanted supervisor member

/-! ## Whole runs -/

theorem begins_of_redundant (recorded : link.Recorded)
    (redundant : link.Redundant action) :
    link.begins action = decide (action = .close) := by
  cases redundant with
  | connect wanted =>
      have serving : link.served = true := recorded.requested.trans wanted
      simp [begins, serving]
  | close unwanted => simp [begins]

/-- A redundant request, wherever it is put into a run, leaves the link at the
end as it is, the whole journal with its attempts, events and frames included.
A redundant close begins one generation more and a redundant connect none.
Either way the same supervisors see, by the generation or by the request, that
they are to end. -/
theorem run_redundant (plan : LinkPlan) (before after : List Action)
    (call : Action) (redundant : (({ plan } : Link).run before).Redundant call) :
    let start : Link := { plan }
    let plain := before ++ after
    let more := before ++ call :: after
    start.run more = start.run plain ∧
      start.generation more =
        start.generation plain + (if call = .close then 1 else 0) ∧
      ∀ supervisor ∈ (start.run plain).supervisors,
        (supervisor.dismissed = true ↔
          start.Superseded plain supervisor.serial ∨
            (start.run plain).requested = false) ∧
        (supervisor.dismissed = true ↔
          start.Superseded more supervisor.serial ∨
            (start.run more).requested = false) := by
  intro start plain more
  have recorded := (manned_run plan before).recorded
  have still := perform_of_redundant recorded redundant
  have same : start.run more = start.run plain := by
    simp only [more, plain, run_append, run_cons, start, still]
  refine ⟨same, ?_, ?_⟩
  · have begun := begins_of_redundant recorded redundant
    simp only [more, plain, generation_append, generation, start, still, begun,
      decide_eq_true_eq]
    omega
  · intro supervisor member
    exact ⟨dismissed_iff plan plain member,
      dismissed_iff plan more (same ▸ member)⟩

/-- The page asks again while the next attempt is waited for, and closes again
while the connection that was closed says goodbye. -/
theorem run_redundant_delaying_leaving :
    let start : Link := { plan := ⟨"ws://portal/S1", ⟨"S1"⟩, 1000, 60000, none⟩ }
    let lost : List Action :=
      [.connect, .react .turn, .react (.refused .connectionClosed)]
    let left : List Action :=
      [.connect, .react .turn, .react .accepted, .close, .react .glance]
    let later : List Action := [.connect, .send "a", .elapse 1000, .react .wrote,
      .react .delayOver, .react .closed, .react .turn]
    ((start.run lost).Redundant .connect ∧
      ((start.run lost).supervisors.map (·.phase) = [.delaying 1000]) ∧
      start.run (lost ++ .connect :: later) = start.run (lost ++ later)) ∧
    ((start.run left).Redundant .close ∧
      ((start.run left).supervisors.map (·.phase) = [.online 0 60000 .leaving]) ∧
      start.run (left ++ .close :: later) = start.run (left ++ later) ∧
      start.generation (left ++ .close :: later) =
        start.generation (left ++ later) + 1) := by
  intro start lost left later
  have asks : (start.run lost).Redundant .connect := .connect (by decide)
  have closes : (start.run left).Redundant .close := .close (by decide)
  obtain ⟨same, _⟩ := run_redundant _ lost later .connect asks
  obtain ⟨still, counted, _⟩ := run_redundant _ left later .close closes
  exact ⟨⟨asks, by decide, same⟩, closes, by decide, still, counted⟩

end PageSession.Link
