import PageSession.Proofs.Client.Passage

/-!
# Frames that come to nothing can be left out

Here each call is carried out to its end before the next one begins.  A frame
that cannot be decoded, or whose notification is refused when its turn comes,
may as well not have arrived: without it a client does the same, but for what it
logs and for what waits.

The two courses are compared step by step.  The one without the frame stands
still while the other one takes its notification and refuses it, and while the
other one goes through a queue in which nothing but such notifications wait.
-/

open Relation

namespace PageSession.Client

/-! ## Refusals -/

/-- A notification would come to nothing now: nobody handles its method, or the
client does itself and cannot make sense of the parameters. -/
def Refuses (client : Client) (notification : Notification) : Prop :=
  client.handlers.find? notification.method = none ∨
    ∃ method error,
      client.handlers.find? notification.method = some (.standard method) ∧
        PortalRequest.ofNotification (.carrying method notification.arguments)
          = .error error

theorem Refuses.step {client : Client} {notification : Notification}
    (refuses : client.Refuses notification) :
    ∃ incident, Duty.step client (.invoke notification)
      = { client := client.report (.incident incident) } := by
  rcases refuses with none | ⟨method, error, found, failed⟩
  · exact ⟨.unhandled notification.method, by simp only [Duty.step, none]⟩
  · refine ⟨.handlerFailed notification.method (.wire error), ?_⟩
    simp only [Duty.step, found, handlerEffect, failed]
    rfl

/-! ## Leaving frames out -/

/-- A passage of which some frames are left out. -/
structure Thinning where
  passage : Passage
  /-- The calls that are not left out. -/
  kept : List Call := []
  /-- Which of the notifications that wait are left out. -/
  waiting : List Bool := []
  /-- Whether the notification taken last is left out. -/
  current : Bool := false
  /-- What the notifications that are not left out have met with. -/
  met : List Encounter := []

namespace Thinning

def keep (thinning : Thinning) (call : Call) : Thinning :=
  { thinning with
    passage := thinning.passage.begin call
    kept := thinning.kept ++ [call]
    waiting := thinning.waiting ++ call.brings.map fun _ => false }

def leaveOut (thinning : Thinning) (frame : String) : Thinning :=
  { thinning with
    passage := thinning.passage.begin (.receive frame)
    waiting := thinning.waiting ++ (Call.receive frame).brings.map fun _ => true }

/-- The marks follow the queue: the first one goes with the notification that is
taken. -/
def proceed (thinning : Thinning) (duty : Duty) (rest : List Duty) : Thinning :=
  let taken := takings (duty.step thinning.passage.client).moments
  { thinning with
    passage := thinning.passage.proceed duty rest
    waiting := thinning.waiting.drop taken.length
    current := if taken.isEmpty then thinning.current else thinning.waiting.headD false
    met :=
      if thinning.current then thinning.met
      else thinning.met ++ duty.encounters thinning.passage.client }

/-- Any frame may be left out that is not decodable, or whose notification is
refused when it is its turn. -/
inductive Step (thinning : Thinning) : Thinning → Prop
  | keep (ended : thinning.passage.duties = []) (call : Call) :
      Step thinning (thinning.keep call)
  | leaveOut (ended : thinning.passage.duties = []) (frame : String) :
      Step thinning (thinning.leaveOut frame)
  | proceed {duty : Duty} {rest : List Duty} (next : thinning.passage.duties = duty :: rest)
      (refused : thinning.current = true → ∀ notification, duty = .invoke notification →
        thinning.passage.client.Refuses notification) :
      Step thinning (thinning.proceed duty rest)

theorem passage_step {thinning other : Thinning} (step : thinning.Step other) :
    thinning.passage.Step other.passage := by
  cases step with
  | keep ended call => exact .begin ended call
  | leaveOut ended frame => exact .begin ended (.receive frame)
  | proceed next refused => exact .proceed next

end Thinning

/-- What is left to do about a notification that is left out. -/
inductive Skipping : List Duty → Prop
  | invoke (notification : Notification) :
      Skipping [.invoke notification, .finish notification]
  | finish (notification : Notification) : Skipping [.finish notification]

/-- How what is left to do without the frames stands to what is left to do with
them. -/
inductive Level (current : Bool) (client other : Client) : List Duty → List Duty → Prop
  | abreast {duties : List Duty}
      (flag : other.inbox.dispatching = client.inbox.dispatching)
      (kept : current = true → ∀ duty ∈ duties, duty.attends = false) :
      Level current client other duties duties
  /-- A notification that is left out was taken in a loop over the queue. -/
  | behind {before rest : List Duty} (omitted : current = true)
      (skipping : Skipping before) (busy : other.inbox.dispatching = true)
      (outside : ∀ duty ∈ rest, duty.attends = false) :
      Level current client other (before ++ rest) (.drain :: rest)
  /-- The call in progress is left out. -/
  | apart {duties : List Duty} (idle : other.inbox.dispatching = false)
      (none : client.inbox.locks = 0 → other.inbox.queue = [])
      (stage : duties = [.dispatch] ∧ client.inbox.dispatching = false ∨
        duties = [.drain] ∨ current = true ∧ Skipping duties) :
      Level current client other duties []

/-- A passage does what is left of a thinned one. -/
structure Mimics (start : Client) (thinning : Thinning) (passage : Passage) : Prop where
  reached : ReflTransGen Passage.Step { client := start } passage
  calls : passage.calls = thinning.kept
  encounters : passage.encounters = thinning.met
  similar : Similar thinning.waiting thinning.passage.client passage.client
  level : Level thinning.current thinning.passage.client passage.client
    thinning.passage.duties passage.duties

theorem Level.ended {current : Bool} {client other : Client} {left : List Duty}
    (level : Level current client other [] left) :
    left = [] ∧ other.inbox.dispatching = client.inbox.dispatching := by
  generalize ended : ([] : List Duty) = duties at level
  cases level with
  | abreast flag kept => exact ⟨rfl, flag⟩
  | behind omitted skipping busy outside => cases skipping <;> simp at ended
  | apart idle none stage =>
      rcases stage with ⟨same, _⟩ | same | ⟨_, skipping⟩
      · rw [same] at ended
        contradiction
      · rw [same] at ended
        contradiction
      · rw [← ended] at skipping
        cases skipping

theorem attends_eq_false {duty : Duty} (stays : duty.enters = false)
    (outside : duty.drains = false) : duty.attends = false := by
  cases duty <;> first | rfl | contradiction

/-! ## Steps -/

section Steps

variable {client : Client} {duty : Duty} (drains : duty ≠ .drain)
include drains

theorem dispatching_step (calls : duty ≠ .dispatch) :
    (duty.step client).client.inbox.dispatching = client.inbox.dispatching := by
  cases duty with
  | drain => contradiction
  | dispatch => contradiction
  | finish notification => rfl
  | _ => exact (mild_step client rfl (by simp)).dispatching

/-- Only the loop over the queue leaves something to do about a notification. -/
theorem attends_step (inner : Inner (duty.step client).duties) :
    ∀ other ∈ (duty.step client).duties, other.attends = false := by
  intro other member
  have stays := (inner other member).2
  cases duty with
  | drain => contradiction
  | dispatch =>
      simp only [Duty.step] at member
      split at member
      · contradiction
      · rw [List.mem_singleton.mp member]
        rfl
  | finish notification =>
      rw [List.mem_singleton.mp member]
      rfl
  | _ =>
      exact attends_eq_false stays ((mild_step client rfl (by simp)).outside other member)

end Steps

theorem dispatching_dispatch (client : Client) :
    (Duty.step client .dispatch).client.inbox.dispatching = true := by
  cases busy : client.inbox.dispatching with
  | true => rw [step_dispatch_busy busy, busy]
  | false => rw [step_dispatch_idle busy]; rfl

theorem Similar.encounters {omitted : List Bool} {client other : Client}
    (similar : Similar omitted client other) (duty : Duty) :
    duty.encounters other = duty.encounters client := by
  cases duty <;> simp [Duty.encounters, similar.handlers, similar.locks]

theorem encounters_eq_nil {duty : Duty} (aside : duty.attends = false) (client : Client) :
    duty.encounters client = [] := by
  cases duty <;> first | rfl | contradiction

namespace Thinning

variable {thinning : Thinning} {duty : Duty} {rest : List Duty}

theorem met_proceed (aside : duty.attends = false) :
    (thinning.proceed duty rest).met = thinning.met := by
  simp [proceed, encounters_eq_nil aside]

theorem met_proceed_of_current (omitted : thinning.current = true) :
    (thinning.proceed duty rest).met = thinning.met := by
  simp [proceed, omitted]

theorem proceed_stop (blocked : thinning.passage.client.Blocked) :
    thinning.proceed .drain rest =
      { thinning with
        passage := { thinning.passage with
          client := thinning.passage.client.flagged false
          duties := rest } } := by
  simp [proceed, Passage.proceed, blocked.step, Duty.encounters]

theorem proceed_take {notification : Notification} {others : List Notification}
    {mark : Bool} {marks : List Bool} (unlocked : thinning.passage.client.inbox.locks = 0)
    (waiting : thinning.passage.client.inbox.queue = notification :: others)
    (marked : thinning.waiting = mark :: marks) :
    thinning.proceed .drain rest =
      { thinning with
        passage := { thinning.passage with
          client := thinning.passage.client.taking notification others
          duties := .invoke notification :: .finish notification :: rest }
        waiting := marks
        current := mark } := by
  simp [proceed, Passage.proceed, step_drain_take unlocked waiting, marked,
    Duty.encounters]

section Silent

variable (silent : takings (duty.step thinning.passage.client).moments = [])
include silent

theorem waiting_proceed : (thinning.proceed duty rest).waiting = thinning.waiting := by
  simp [proceed, silent]

theorem current_proceed : (thinning.proceed duty rest).current = thinning.current := by
  simp [proceed, silent]

end Silent

end Thinning

namespace Mimics

variable {start : Client} {thinning : Thinning} {passage : Passage}

/-! ### Calls -/

section Calls

variable (mimics : Mimics start thinning passage) (ended : thinning.passage.duties = [])
include mimics ended

theorem ended_and_flag : passage.duties = [] ∧
    passage.client.inbox.dispatching = thinning.passage.client.inbox.dispatching := by
  have level := mimics.level
  rw [ended] at level
  exact level.ended

theorem keep (blind : thinning.passage.Blind) {call : Call} (shown : call.Blind) :
    Mimics start (thinning.keep call) (passage.begin call) := by
  obtain ⟨endedToo, flag⟩ := mimics.ended_and_flag ended
  have mirrors := mirrors_begin mimics.similar blind.client shown
  have mild := mild_start thinning.passage.client call
  have mildToo := mild_start passage.client call
  exact
    { reached := mimics.reached.tail (.begin endedToo call)
      calls := congrArg (· ++ [call]) mimics.calls
      encounters := mimics.encounters
      similar := mirrors.similar
      level := by
        have same : (passage.begin call).duties = (thinning.keep call).passage.duties :=
          mirrors.duties
        rw [same]
        apply Level.abreast
        · exact mildToo.dispatching.trans (flag.trans mild.dispatching.symm)
        · intro _ duty member
          exact attends_eq_false (mirrors.inner duty member).2 (mild.outside duty member) }

/-- With no lock held nothing waits, so nothing but the frame left out would be
dispatched. -/
theorem leaveOut (regular : Passage.Regular start thinning.passage) (frame : String) :
    Mimics start (thinning.leaveOut frame) passage := by
  obtain ⟨endedToo, flag⟩ := mimics.ended_and_flag ended
  have similar := mimics.similar
  have idle := regular.idle ended
  cases decoded : Notification.ofFrame frame with
  | error error =>
      have passing : (Report.incident (.undecodable error)).lasts = false := rfl
      exact
        { reached := mimics.reached
          calls := mimics.calls
          encounters := mimics.encounters
          similar := by
            simp only [Thinning.leaveOut, Passage.begin, Call.start, Call.brings, decoded,
              Except.toOption, Option.toList_none, List.map_nil, List.append_nil]
            exact similar.report_left passing
          level := by
            simp only [Thinning.leaveOut, Passage.begin, Call.start, decoded, endedToo]
            exact .abreast flag (by simp) }
  | ok notification =>
      exact
        { reached := mimics.reached
          calls := mimics.calls
          encounters := mimics.encounters
          similar := by
            simp only [Thinning.leaveOut, Passage.begin, Call.start, Call.brings, decoded,
              Except.toOption, Option.toList_some, List.map_singleton]
            exact similar.arrive_left notification
          level := by
            simp only [Thinning.leaveOut, Passage.begin, Call.start, decoded, endedToo]
            refine .apart (flag.trans idle) ?_ (.inl ⟨rfl, idle⟩)
            intro unlocked
            rw [similar.queue, regular.queue_eq_nil ended unlocked, thin_nil] }

end Calls

/-! ### The same step on both sides -/

section Abreast

variable (mimics : Mimics start thinning passage) {duty : Duty} {rest : List Duty}
  (kept : thinning.current = true → ∀ other ∈ duty :: rest, other.attends = false)
include mimics kept

theorem encounters_abreast : (passage.proceed duty rest).encounters
    = (thinning.proceed duty rest).met := by
  simp only [Passage.proceed, Thinning.proceed, mimics.encounters,
    mimics.similar.encounters duty]
  cases current : thinning.current with
  | true =>
      rw [encounters_eq_nil (kept current duty List.mem_cons_self)]
      simp
  | false => simp

variable
  (nextToo : passage.duties = duty :: rest)
  (flag : passage.client.inbox.dispatching = thinning.passage.client.inbox.dispatching)
include nextToo flag

theorem step_abreast (drains : duty ≠ .drain)
    (mirrors : Mirrors thinning.waiting (duty.step thinning.passage.client)
      (duty.step passage.client)) :
    Mimics start (thinning.proceed duty rest) (passage.proceed duty rest) where
  reached := mimics.reached.tail (.proceed nextToo)
  calls := mimics.calls
  encounters := mimics.encounters_abreast kept
  similar := by
    rw [Thinning.waiting_proceed (takings_step drains)]
    exact mirrors.similar
  level := by
    have same : (passage.proceed duty rest).duties
        = (thinning.proceed duty rest).passage.duties := congrArg (· ++ rest) mirrors.duties
    rw [same, Thinning.current_proceed (takings_step drains)]
    apply Level.abreast
    · by_cases calls : duty = .dispatch
      · subst calls
        exact (dispatching_dispatch _).trans (dispatching_dispatch _).symm
      · exact (dispatching_step drains calls).trans
          (flag.trans (dispatching_step drains calls).symm)
    · intro omitted other member
      rcases List.mem_append.mp member with member | member
      · exact attends_step drains mirrors.inner other member
      · exact kept omitted other (List.mem_cons_of_mem _ member)

end Abreast

/-- The loop over the queue takes the next notification on both sides, or on
one side only if it is left out. -/
theorem drain_abreast (mimics : Mimics start thinning passage)
    (regular : Passage.Regular start thinning.passage) (blind : thinning.passage.Blind)
    {rest : List Duty} (next : thinning.passage.duties = .drain :: rest)
    (nextToo : passage.duties = .drain :: rest)
    (flag : passage.client.inbox.dispatching = thinning.passage.client.inbox.dispatching)
    (kept : thinning.current = true → ∀ other ∈ .drain :: rest, other.attends = false) :
    ∃ other, Mimics start (thinning.proceed .drain rest) other := by
  have similar := mimics.similar
  rcases blocked_or_waiting thinning.passage.client with
    blocked | ⟨unlocked, notification, others, waiting⟩
  · have blockedToo := similar.blocked blocked
    refine ⟨passage.proceed .drain rest, mimics.reached.tail (.proceed nextToo), mimics.calls,
      mimics.encounters_abreast kept, ?_, ?_⟩
    · simp only [Thinning.proceed_stop blocked, Passage.proceed, blockedToo.step]
      exact similar.flagged false false
    · simp only [Thinning.proceed_stop blocked, Passage.proceed, blockedToo.step,
        List.nil_append]
      exact .abreast rfl fun omitted other member =>
        kept omitted other (List.mem_cons_of_mem _ member)
  obtain ⟨mark, marks, marked⟩ := similar.exists_mark waiting
  rw [marked] at similar
  rw [Thinning.proceed_take unlocked waiting marked]
  cases mark with
  | true =>
      -- The other passage stands still until this notification is finished.
      obtain ⟨busy, outside⟩ := regular.alone next rfl
      have stays := blind.tail
      rw [next] at stays
      refine ⟨passage, mimics.reached, mimics.calls, mimics.encounters,
        similar.take_left waiting, ?_⟩
      rw [nextToo]
      apply Level.behind rfl (.invoke notification) (flag.trans busy)
      intro other member
      exact attends_eq_false (stays other member) (outside other member)
  | false =>
      have unlockedToo : passage.client.inbox.locks = 0 := similar.locks.trans unlocked
      have takes := step_drain_take unlockedToo (similar.queue_eq_cons waiting)
      refine ⟨passage.proceed .drain rest, mimics.reached.tail (.proceed nextToo),
        mimics.calls, ?_, ?_, ?_⟩ <;> simp only [Passage.proceed, takes]
      · exact (List.append_nil _).trans mimics.encounters
      · exact similar.take waiting
      · exact .abreast flag (by simp)

/-! ### Steps on one side -/

/-- A step about a notification that is left out, as it looks from a passage that
stands still. -/
structure Skips (thinning next : Thinning) (passage : Passage) (others : List Duty) :
    Prop where
  current : next.current = true
  met : next.met = thinning.met
  similar : Similar next.waiting next.passage.client passage.client
  inbox : next.passage.client.inbox = thinning.passage.client.inbox
  left : (∃ after, Skipping after ∧ next.passage.duties = after ++ others) ∨
    next.passage.duties = .drain :: others

/-- A notification that is left out is refused, and then the loop over the queue
goes on. -/
theorem skips (mimics : Mimics start thinning passage) {duty : Duty}
    {before rest others : List Duty} (omitted : thinning.current = true)
    (skipping : Skipping before) (split : before ++ others = duty :: rest)
    (refused : ∀ notification, duty = .invoke notification →
      thinning.passage.client.Refuses notification) :
    Skips thinning (thinning.proceed duty rest) passage others := by
  cases skipping with
  | invoke notification =>
      obtain ⟨rfl, rfl⟩ := List.cons.inj split
      obtain ⟨incident, refuses⟩ := (refused notification rfl).step
      have passing : (Report.incident incident).lasts = false := rfl
      have silent : takings
          (Duty.step thinning.passage.client (.invoke notification)).moments = [] := by
        rw [refuses]
        rfl
      constructor
      case current => rw [Thinning.current_proceed silent, omitted]
      case met => exact Thinning.met_proceed_of_current omitted
      case similar =>
        rw [Thinning.waiting_proceed silent]
        simp only [Thinning.proceed, Passage.proceed, refuses]
        exact mimics.similar.report_left passing
      case inbox =>
        simp only [Thinning.proceed, Passage.proceed, refuses]
        rfl
      case left =>
        refine .inl ⟨_, .finish notification, ?_⟩
        simp only [Thinning.proceed, Passage.proceed, refuses]
        rfl
  | finish notification =>
      obtain ⟨rfl, rfl⟩ := List.cons.inj split
      constructor
      case current => rw [Thinning.current_proceed rfl, omitted]
      case met => exact Thinning.met_proceed_of_current omitted
      case similar =>
        rw [Thinning.waiting_proceed rfl]
        exact mimics.similar
      case inbox => rfl
      case left => exact .inr rfl

section Apart

variable (mimics : Mimics start thinning passage) (nextToo : passage.duties = [])
  (idle : passage.client.inbox.dispatching = false)
  (none : thinning.passage.client.inbox.locks = 0 → passage.client.inbox.queue = [])
include mimics nextToo idle none

theorem apart_dispatch (quiet : thinning.passage.client.inbox.dispatching = false) :
    Mimics start (thinning.proceed .dispatch []) passage := by
  have started := step_dispatch_idle quiet
  have silent : takings (Duty.step thinning.passage.client .dispatch).moments = [] :=
    takings_step (by simp)
  refine ⟨mimics.reached, mimics.calls, ?_, ?_, ?_⟩
  · rw [Thinning.met_proceed rfl]
    exact mimics.encounters
  · rw [Thinning.waiting_proceed silent]
    simp only [Thinning.proceed, Passage.proceed, started]
    exact mimics.similar.flagged_left true
  · rw [nextToo]
    simp only [Thinning.proceed, Passage.proceed, started]
    exact .apart idle none (.inr (.inl rfl))

/-- A loop over the queue in a call that is left out takes nothing but what is
left out. -/
theorem apart_drain : Mimics start (thinning.proceed .drain []) passage := by
  have similar := mimics.similar
  rcases blocked_or_waiting thinning.passage.client with
    blocked | ⟨unlocked, notification, others, waiting⟩
  · rw [Thinning.proceed_stop blocked]
    refine ⟨mimics.reached, mimics.calls, mimics.encounters, similar.flagged_left false, ?_⟩
    rw [nextToo]
    exact .abreast idle (by simp)
  obtain ⟨mark, marks, marked⟩ := similar.exists_mark waiting
  rw [marked] at similar
  rw [Thinning.proceed_take unlocked waiting marked]
  cases mark with
  | true =>
      refine ⟨mimics.reached, mimics.calls, mimics.encounters, similar.take_left waiting, ?_⟩
      rw [nextToo]
      exact .apart idle none (.inr (.inr ⟨rfl, .invoke notification⟩))
  | false =>
      have empty := none unlocked
      rw [similar.queue_eq_cons waiting] at empty
      contradiction

theorem apart_skip {duty : Duty} {rest : List Duty} (omitted : thinning.current = true)
    (skipping : Skipping (duty :: rest))
    (refused : ∀ notification, duty = .invoke notification →
      thinning.passage.client.Refuses notification) :
    Mimics start (thinning.proceed duty rest) passage := by
  have skips := mimics.skips omitted skipping (List.append_nil _) refused
  refine ⟨mimics.reached, mimics.calls, mimics.encounters.trans skips.met.symm,
    skips.similar, ?_⟩
  rw [nextToo]
  apply Level.apart idle
  · rw [skips.inbox]
    exact none
  · rcases skips.left with ⟨after, skipping, left⟩ | left
    · rw [left, List.append_nil]
      exact .inr (.inr ⟨skips.current, skipping⟩)
    · exact .inr (.inl left)

end Apart

/-- Every step of a thinned passage is followed by one step, or by none. -/
theorem proceed (mimics : Mimics start thinning passage)
    (regular : Passage.Regular start thinning.passage) (blind : thinning.passage.Blind)
    {duty : Duty} {rest : List Duty} (next : thinning.passage.duties = duty :: rest)
    (refused : thinning.current = true → ∀ notification, duty = .invoke notification →
      thinning.passage.client.Refuses notification) :
    ∃ other, Mimics start (thinning.proceed duty rest) other := by
  have level := mimics.level
  rw [next] at level
  generalize split : duty :: rest = duties, nextToo : passage.duties = left at level
  cases level with
  | abreast flag kept =>
      subst split
      by_cases drains : duty = .drain
      case pos =>
        subst drains
        exact mimics.drain_abreast regular blind next nextToo flag kept
      case neg =>
        have shown := blind.duties duty (by simp [next])
        refine ⟨_, mimics.step_abreast kept nextToo flag drains ?_⟩
        by_cases calls : duty = .dispatch
        · subst calls
          exact mirrors_dispatch mimics.similar blind.client flag
        · exact mirrors_step mimics.similar blind.client shown calls drains
  | @behind before others omitted skipping busy outside =>
      have skips := mimics.skips omitted skipping split.symm (refused omitted)
      refine ⟨passage, mimics.reached, mimics.calls, mimics.encounters.trans skips.met.symm,
        skips.similar, ?_⟩
      rw [nextToo]
      rcases skips.left with ⟨after, skipping, left⟩ | left
      · rw [left]
        exact .behind skips.current skipping busy outside
      · have regularNext := regular.proceed next
        obtain ⟨busyToo, _⟩ := regularNext.alone left rfl
        rw [left]
        apply Level.abreast (busy.trans busyToo.symm)
        intro _ other member
        rcases List.mem_cons.mp member with rfl | member
        · rfl
        · exact outside other member
  | apart idle none stage =>
      subst split
      refine ⟨passage, ?_⟩
      rcases stage with ⟨same, quiet⟩ | same | ⟨omitted, skipping⟩
      · obtain ⟨rfl, rfl⟩ := List.cons.inj same
        exact mimics.apart_dispatch nextToo idle none quiet
      · obtain ⟨rfl, rfl⟩ := List.cons.inj same
        exact mimics.apart_drain nextToo idle none
      · exact mimics.apart_skip nextToo idle none omitted skipping (refused omitted)

end Mimics

/-! ## Runs -/

theorem mimics_start (start : Client) (none : start.inbox.queue = []) :
    Mimics start { passage := { client := start } } { client := start } where
  reached := .refl
  calls := rfl
  encounters := rfl
  similar := by
    have similar := similar_refl start
    rw [none] at similar
    exact similar
  level := .abreast rfl (by simp)

theorem mimics_reaches {start : Client} (fresh : start.inbox = {}) (blind : start.Blind)
    {thinning : Thinning}
    (reached : ReflTransGen Thinning.Step { passage := { client := start } } thinning)
    (shown : ∀ call ∈ thinning.passage.calls, call.Blind) :
    Passage.Regular start thinning.passage ∧ thinning.passage.Blind ∧
      ∃ passage, Mimics start thinning passage := by
  induction reached with
  | refl =>
      have regular : Passage.Regular start { client := start } :=
        Passage.regular_reaches fresh .refl
      have blindStart : Passage.Blind { client := start } := ⟨blind, by simp, by simp⟩
      exact ⟨regular, blindStart, _, mimics_start start (by rw [fresh])⟩
  | @tail before after _ last induction =>
      have grows : ∀ call ∈ before.passage.calls, call ∈ after.passage.calls :=
        fun _ member => Passage.mem_calls_of_step (Thinning.passage_step last) member
      obtain ⟨regular, blind, passage, mimics⟩ :=
        induction fun call member => shown call (grows call member)
      cases last with
      | keep ended call =>
          have callShown : call.Blind :=
            shown call (List.mem_append_right _ List.mem_cons_self)
          exact ⟨regular.begin ended call, blind.begin callShown, _,
            mimics.keep ended blind callShown⟩
      | leaveOut ended frame =>
          have frameShown : (Call.receive frame).Blind := trivial
          exact ⟨regular.begin ended _, blind.begin frameShown, _,
            mimics.leaveOut ended regular frame⟩
      | proceed next refused =>
          exact ⟨regular.proceed next, blind.proceed next,
            mimics.proceed regular blind next refused⟩

/-! ## Ill-typed announcements -/

/-- A parameter is given that does not fit. -/
def Mistyped {α : Type} (decode : Json.Value → Json.Decoded α)
    (params : List Json.Value) (index : Nat) : Prop :=
  ∃ value mismatch, params[index]? = some value ∧ value ≠ .null ∧
    decode value = .error mismatch

theorem optionalParam_ne_ok {α : Type} {decode : Json.Value → Json.Decoded α}
    {notification : Notification} {index : Nat}
    (mistyped : Mistyped decode notification.arguments index) (part : Option α) :
    notification.optionalParam decode index ≠ .ok part := by
  obtain ⟨value, mismatch, given, present, failed⟩ := mistyped
  unfold Notification.optionalParam
  rw [given]
  cases value with
  | null => contradiction
  | _ => simp [failed]

/-- The error that names a parameter that does not fit. -/
def misfit (method : String) (index : Nat) (mismatch : Json.Mismatch) : WireError :=
  .invalidParams method ("argument " ++ Text.decimal index ++ ": " ++ mismatch.message)

theorem optionalParam_cases {α : Type} (decode : Json.Value → Json.Decoded α)
    (notification : Notification) (index : Nat) :
    (∃ part, notification.optionalParam decode index = .ok part) ∨
      ∃ mismatch, notification.optionalParam decode index
        = .error (misfit notification.method index mismatch) := by
  unfold Notification.optionalParam
  split
  · exact .inl ⟨none, rfl⟩
  · exact .inl ⟨none, rfl⟩
  · split
    · exact .inl ⟨some _, rfl⟩
    · exact .inr ⟨_, rfl⟩

/-- The parameters of an announcement of page resources are a list of style
sheets, a style and a list of scripts, each of which may be absent. -/
def IllTyped (params : List Json.Value) : Prop :=
  Mistyped (Json.Decode.list Json.Decode.string) params 0 ∨
    Mistyped Json.Decode.string params 1 ∨
      Mistyped (Json.Decode.list ScriptResource.decode) params 2

theorem addResourcesOf_of_illTyped {notification : Notification}
    (illTyped : IllTyped notification.arguments) :
    ∃ index mismatch, index < 3 ∧ PortalRequest.addResourcesOf notification
      = .error (misfit notification.method index mismatch) := by
  unfold PortalRequest.addResourcesOf
  rcases optionalParam_cases (Json.Decode.list Json.Decode.string) notification 0 with
    ⟨stylesheets, first⟩ | ⟨mismatch, failed⟩
  case inr => exact ⟨0, mismatch, by simp, by rw [failed]; rfl⟩
  rcases optionalParam_cases Json.Decode.string notification 1 with
    ⟨style, second⟩ | ⟨mismatch, failed⟩
  case inr => exact ⟨1, mismatch, by simp, by rw [first, failed]; rfl⟩
  rcases optionalParam_cases (Json.Decode.list ScriptResource.decode) notification 2 with
    ⟨scripts, third⟩ | ⟨mismatch, failed⟩
  case inr => exact ⟨2, mismatch, by simp, by rw [first, second, failed]; rfl⟩
  rcases illTyped with mistyped | mistyped | mistyped
  · exact absurd first (optionalParam_ne_ok mistyped stylesheets)
  · exact absurd second (optionalParam_ne_ok mistyped style)
  · exact absurd third (optionalParam_ne_ok mistyped scripts)

/-- With one parameter ill-typed, nothing of an announcement is done. -/
theorem handleOne_of_illTyped {client : Client} {notification : Notification}
    (announces : notification.method = Method.addPageResources)
    (handled : client.handlers.find? Method.addPageResources
      = some (.standard Method.addPageResources))
    (illTyped : IllTyped notification.arguments) :
    client.Refuses notification ∧ ∃ index mismatch, index < 3 ∧
      client.handleOne notification
        = (client.report (.taken notification)).report
          (.incident (.handlerFailed Method.addPageResources
            (.wire (misfit Method.addPageResources index mismatch)))) := by
  have carried : IllTyped
      (Notification.carrying Method.addPageResources notification.arguments).arguments :=
    illTyped
  obtain ⟨index, mismatch, bound, failed⟩ := addResourcesOf_of_illTyped carried
  have refused : PortalRequest.ofNotification
      (.carrying Method.addPageResources notification.arguments)
        = .error (misfit Method.addPageResources index mismatch) := failed
  have found : (client.report (.taken notification)).handlers.find? Method.addPageResources
      = some (.standard Method.addPageResources) := handled
  refine ⟨.inr ⟨_, _, announces ▸ handled, refused⟩, index, mismatch, bound, ?_⟩
  simp only [handleOne, announces, found, runHandler, refused, settleOutcome]

/-! ## Frames left out -/

/-- If nobody looks at how many notifications wait, then frames that cannot be
decoded, or whose notifications are refused when it is their turn, may be left
out of any sequence of calls: without them the client does the same, but for what
it logs and for what waits.  Announcements of page resources with an ill-typed
parameter are refused as a whole. -/
theorem exists_reaches_similar {start : Client} (fresh : start.inbox = {})
    (blind : start.Blind) {thinning : Thinning}
    (reached : ReflTransGen Thinning.Step { passage := { client := start } } thinning)
    (shown : ∀ call ∈ thinning.passage.calls, call.Blind) :
    (∃ other : Passage, ReflTransGen Passage.Step { client := start } other ∧
      other.calls = thinning.kept ∧ other.encounters = thinning.met ∧
      Similar thinning.waiting thinning.passage.client other.client ∧
      (thinning.passage.duties = [] → other.duties = [] ∧
        thinning.passage.client = thinning.passage.calls.foldl Call.result start ∧
        other.client = thinning.kept.foldl Call.result start ∧
        (thinning.passage.client.inbox.locks = 0 →
          thinning.passage.client.inbox.queue = [] ∧ other.client.inbox.queue = []))) ∧
    ∀ (client : Client) (notification : Notification),
      notification.method = Method.addPageResources →
      client.handlers.find? Method.addPageResources
        = some (.standard Method.addPageResources) →
      IllTyped notification.arguments →
        client.Refuses notification ∧ ∃ index mismatch, index < 3 ∧
          client.handleOne notification
            = (client.report (.taken notification)).report
              (.incident (.handlerFailed Method.addPageResources
                (.wire (misfit Method.addPageResources index mismatch)))) := by
  constructor
  · obtain ⟨regular, _, other, mimics⟩ := mimics_reaches fresh blind reached shown
    refine ⟨other, mimics.reached, mimics.calls, mimics.encounters, mimics.similar, ?_⟩
    intro ended
    obtain ⟨endedToo, _⟩ := mimics.ended_and_flag ended
    have regularToo := Passage.regular_reaches fresh mimics.reached
    refine ⟨endedToo, regular.client_eq ended,
      mimics.calls ▸ regularToo.client_eq endedToo, ?_⟩
    intro unlocked
    exact ⟨regular.queue_eq_nil ended unlocked,
      regularToo.queue_eq_nil endedToo (mimics.similar.locks.trans unlocked)⟩
  · intro client notification announces handled illTyped
    exact handleOne_of_illTyped announces handled illTyped

theorem exists_params (frame name : String)
    (method : (Notification.ofFrame frame).toOption.map (·.method) = some name) :
    ∃ params, Notification.ofFrame frame = .ok ⟨name, params⟩ := by
  cases decoded : Notification.ofFrame frame with
  | error error => simp [decoded, Except.toOption] at method
  | ok notification =>
      obtain ⟨found, params⟩ := notification
      rw [decoded] at method
      obtain rfl : found = name := Option.some.inj method
      exact ⟨params, rfl⟩

/-- A notification that nobody handles arrives while a lock is held, and is left
out. -/
theorem exists_reaches_similar_unhandled :
    let plan : LinkPlan := ⟨"ws://portal/S1", ⟨"S1"⟩, 1000, 60000, none⟩
    let client := startStandard plan { execute := fun _ _ => .ok () }
    let announcement := Notification.carrying Method.addPageResources [.null, .bool true]
    client.inbox = {} ∧ client.Blind ∧
      (client.Refuses announcement ∧ ∃ index mismatch, index < 3 ∧
        client.handleOne announcement
          = (client.report (.taken announcement)).report
            (.incident (.handlerFailed Method.addPageResources
              (.wire (misfit Method.addPageResources index mismatch))))) ∧
      ∃ (thinning : Thinning) (other : Passage),
        ReflTransGen Thinning.Step { passage := { client } } thinning ∧
        (∀ call ∈ thinning.passage.calls, call.Blind) ∧ thinning.passage.duties = [] ∧
        thinning.passage.calls.length = 3 ∧ thinning.passage.client.journal.length = 2 ∧
        thinning.kept = [.lock, .unlock] ∧
        Similar thinning.waiting thinning.passage.client other.client ∧
        other.client = [Call.lock, .unlock].foldl Call.result client ∧
        other.client.journal = [] := by
  intro plan client announcement
  let frame := "\x7b\"jsonrpc\":\"2.0\",\"method\":\"gone\"\x7d"
  obtain ⟨params, decoded⟩ := exists_params frame "gone" (by decide +kernel)
  have locked : ReflTransGen Thinning.Step { passage := { client } } _ :=
    .single (.keep rfl .lock)
  have arrived := locked.tail (.leaveOut rfl frame)
  simp only [Thinning.leaveOut, Passage.begin, Call.start, Call.brings, decoded] at arrived
  have waits := (arrived.tail (.proceed rfl (by simp))).tail (.proceed rfl (by simp))
  change ReflTransGen Thinning.Step _
    { passage :=
        { client := { client with
            inbox := { queue := [⟨"gone", params⟩], locks := 1 } }
          calls := [.lock, .receive frame] }
      kept := [.lock]
      waiting := [true] } at waits
  have unlocked := waits.tail (.keep rfl .unlock)
  have taken := (unlocked.tail (.proceed rfl (by simp))).tail (.proceed rfl (by simp))
  have unhandled : client.handlers.find? "gone" = none := by rfl
  have refused := taken.tail (.proceed rfl fun _ other same => by
    cases same
    exact .inl unhandled)
  have reached := (refused.tail (.proceed rfl (by simp))).tail (.proceed rfl (by simp))
  have blind : client.Blind := blind_startStandard plan _
  have shown : ∀ call ∈ [Call.lock, .receive frame, .unlock], call.Blind := by
    simp [Call.Blind]
  obtain ⟨⟨other, _, _, _, similar, ended⟩, illTyped⟩ :=
    exists_reaches_similar rfl blind reached shown
  obtain ⟨_, _, same, _⟩ := ended rfl
  have announced : IllTyped announcement.arguments :=
    .inr (.inl ⟨.bool true, _, rfl, by simp, rfl⟩)
  exact ⟨rfl, blind, illTyped client announcement rfl rfl announced, _, other, reached,
    shown, rfl, rfl, rfl, rfl, similar, same, same ▸ rfl⟩

/-- A handler that tells the portal how many notifications wait behind its own
tells it about a notification that comes to nothing. -/
theorem exists_outbound_ne :
    let plan : LinkPlan := ⟨"ws://portal/S1", ⟨"S1"⟩, 1000, 60000, none⟩
    let tells : List Json.Value → Program := fun _ => .look fun snapshot =>
      .perform (.send (.carrying "waiting" [.number (.integer snapshot.pending)]))
        (.done .success)
    let client := (startStandard plan { execute := fun _ _ => .ok () }).handle "news"
      (.custom tells)
    let news := "\x7b\"jsonrpc\":\"2.0\",\"method\":\"news\"\x7d"
    let gone := "\x7b\"jsonrpc\":\"2.0\",\"method\":\"gone\"\x7d"
    let calls := [.lock, .receive news, .receive gone, .unlock]
    let others := [.lock, .receive news, .unlock]
    client.inbox = {} ∧
      (∃ thinning : Thinning, ReflTransGen Thinning.Step { passage := { client } } thinning ∧
        thinning.passage.duties = [] ∧ thinning.passage.calls = calls ∧
        thinning.kept = others) ∧
      (calls.foldl Call.result client).link.outbound
        ≠ (others.foldl Call.result client).link.outbound := by
  intro plan tells client news gone calls others
  obtain ⟨newsParams, newsDecoded⟩ := exists_params news "news" (by decide +kernel)
  obtain ⟨goneParams, goneDecoded⟩ := exists_params gone "gone" (by decide +kernel)
  refine ⟨rfl, ?_, by decide +kernel⟩
  let first : Notification := ⟨"news", newsParams⟩
  let second : Notification := ⟨"gone", goneParams⟩
  let queued : Client := { client with inbox := { queue := [first, second], locks := 1 } }
  have locked : ReflTransGen Thinning.Step { passage := { client } } _ :=
    .single (.keep rfl .lock)
  have arrived := locked.tail (.keep rfl (.receive news))
  simp only [Thinning.keep, Passage.begin, Call.start, Call.brings, newsDecoded] at arrived
  have waits := (arrived.tail (.proceed rfl (by simp))).tail (.proceed rfl (by simp))
  have followed := waits.tail (.leaveOut rfl gone)
  simp only [Thinning.leaveOut, Passage.begin, Call.start, Call.brings, goneDecoded]
    at followed
  have both := (followed.tail (.proceed rfl (by simp))).tail (.proceed rfl (by simp))
  change ReflTransGen Thinning.Step _
    { passage := { client := queued, calls := [.lock, .receive news, .receive gone] }
      kept := [.lock, .receive news]
      waiting := [false, true] } at both
  have unlocked := (both.tail (.keep rfl .unlock)).tail (.proceed rfl (by simp))
  have given := (unlocked.tail (.proceed rfl (by simp))).tail
    (.proceed rfl fun omitted => absurd omitted Bool.false_ne_true)
  change ReflTransGen Thinning.Step _
    { passage :=
        { client := { queued with inbox := { queue := [second], dispatching := true } }.report
            (.taken first)
          duties := [.run (some "news") (tells first.arguments), .finish first]
          calls
          encounters := [.given first (some (.custom tells))] }
      kept := others
      waiting := [true]
      met := [.given first (some (.custom tells))] } at given
  have looked := given.tail (.proceed rfl (by simp))
  have told := (looked.tail (.proceed rfl (by simp))).tail (.proceed rfl (by simp))
  have taken := (told.tail (.proceed rfl (by simp))).tail (.proceed rfl (by simp))
  have unhandled : client.handlers.find? "gone" = none := rfl
  have refused := taken.tail (.proceed rfl fun _ other same => by
    cases same
    exact .inl unhandled)
  have reached := (refused.tail (.proceed rfl (by simp))).tail (.proceed rfl (by simp))
  exact ⟨_, reached, rfl, rfl, rfl⟩

end PageSession.Client
