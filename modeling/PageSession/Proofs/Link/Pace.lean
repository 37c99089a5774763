import Mathlib.Data.List.Chain
import PageSession.Proofs.Link.Lifecycle

/-!
# The pace of the attempts to connect

Each supervisor has a turn, and from then on makes attempts one after the other.
The first is due at once, every later one when the reconnect delay has passed
since the refusal or loss before it.  None is made before it is due, and if time
waits for the first supervisor whenever one is due, none is made later.

Once no connection is requested, the supervisors started so far make no attempt
any more, and none of theirs succeeds.
-/

namespace PageSession.Link

/-- What sets the pace of a supervisor, each at a time. -/
inductive Mark where
  /-- Nobody is before it any more. -/
  | turn (time : Nat)
  | attempt (time : Nat)
  | opening (time : Nat)
  /-- Its attempt was refused, or its connection was lost. -/
  | setback (time : Nat)
deriving DecidableEq, Repr

/-- When the attempt is due that follows, if one follows. -/
def Mark.due? (delay : Nat) : Mark → Option Nat
  | .turn time => some time
  | .setback time => some (time + delay)
  | .attempt _ | .opening _ => none

/-- Whether it is an attempt or the success of one. -/
def Mark.isEffort : Mark → Bool
  | .attempt _ | .opening _ => true
  | .turn _ | .setback _ => false

def Mark.attemptTime? : Mark → Option Nat
  | .attempt time => some time
  | .turn _ | .opening _ | .setback _ => none

/-- The marks that may follow one another.  If time waits for the supervisor,
attempts are made when they are due, and otherwise not before. -/
inductive Mark.Follows (delay : Nat) (waits : Prop) : Mark → Mark → Prop
  | attempt {last : Mark} {due time : Nat} (wait : last.due? delay = some due)
      (after : due ≤ time) (once : waits → time = due) :
      Follows delay waits last (.attempt time)
  | opening {time later : Nat} (after : time ≤ later) :
      Follows delay waits (.attempt time) (.opening later)
  | refusal {time later : Nat} (after : time ≤ later) :
      Follows delay waits (.attempt time) (.setback later)
  | loss {time later : Nat} (after : time ≤ later) :
      Follows delay waits (.opening time) (.setback later)

/-- The marks of a supervisor: first its turn, and then each follows on the one
before it. -/
structure Paced (delay : Nat) (waits : Prop) (marks : List Mark) : Prop where
  begins : ∀ mark ∈ marks.head?, ∃ time, mark = .turn time
  chain : marks.IsChain (Mark.Follows delay waits)

def Report.mark? (now : Nat) : Report → Option Mark
  | .attempting time => some (.attempt time)
  | .opened _ => some (.opening now)
  | .refused time | .lost _ time => some (.setback time)
  | _ => none

def Report.attemptTime? : Report → Option Nat
  | .attempting time => some time
  | _ => none

/-- When attempts were made, by whomever. -/
def attempted (link : Link) : List Nat :=
  link.journal.filterMap Report.attemptTime?

/-- The marks that the journal of a later state of the link adds. -/
def marked (link next : Link) : List Mark :=
  (next.journal.drop link.journal.length).filterMap (Report.mark? link.now)

/-- The serial of the supervisor whose turn it is. -/
def acting? (link : Link) : Option Nat :=
  link.supervisors.head?.map (·.serial)

/-- The turn of a supervisor that has become the first. -/
def turned (link next : Link) : List (Nat × Mark) :=
  match next.acting? with
  | none => []
  | some serial =>
      if link.acting? = some serial then [] else [(serial, .turn next.now)]

/-- The marks made between two states of the link, each with the serial of the
supervisor it belongs to: those of the first supervisor, for only this one acts,
and then the turn of another. -/
def marksBetween (link next : Link) : List (Nat × Mark) :=
  (link.acting?.toList.flatMap fun serial => (marked link next).map (serial, ·)) ++
    turned link next

/-- The marks made in the course of some actions. -/
def timeline (link : Link) : List Action → List (Nat × Mark)
  | [] => []
  | action :: actions =>
      let next := link.perform action
      link.marksBetween next ++ next.timeline actions

/-- The marks of one supervisor. -/
def marksOf (serial : Nat) (timeline : List (Nat × Mark)) : List Mark :=
  timeline.filterMap fun (owner, mark) => if owner = serial then some mark else none

/-- When the first supervisor is to make an attempt, if it speaks for the link
and none is under way. -/
def deadline? (link : Link) : Option Nat :=
  match link.supervisors with
  | { dismissed := false, phase := .waiting, .. } :: _ => some link.now
  | { dismissed := false, phase := .delaying due, .. } :: _ => some due
  | _ => none

/-- Whether an action lets no time pass beyond an attempt that is due. -/
def InTime (link : Link) : Action → Prop
  | .elapse milliseconds =>
      ∀ due ∈ link.deadline?, link.now + milliseconds ≤ due
  | _ => True

instance decidableInTime (link : Link) : DecidablePred link.InTime
  | .elapse _ => inferInstanceAs (Decidable (∀ due ∈ link.deadline?, _ ≤ due))
  | .connect | .close | .send _ | .react _ => .isTrue trivial

/-- Time waits for the first supervisor in a run. -/
def Waits (link : Link) : List Action → Prop
  | [] => True
  | action :: actions => link.InTime action ∧ (link.perform action).Waits actions

instance decidableWaits (link : Link) : DecidablePred link.Waits
  | [] => .isTrue trivial
  | action :: actions =>
      have := decidableWaits (link.perform action) actions
      inferInstanceAs (Decidable (link.InTime action ∧ _))

variable {link next : Link} {supervisor : Supervisor} {others : List Supervisor}
  {stimulus : Stimulus} {action : Action} {delay serial : Nat} {waits : Prop}
  {marks : List Mark} {line : List (Nat × Mark)} {last mark : Mark}

/-! ## Marks of one supervisor -/

@[simp] theorem marksOf_nil : marksOf serial [] = [] := rfl

@[simp] theorem marksOf_append (before after : List (Nat × Mark)) :
    marksOf serial (before ++ after) = marksOf serial before ++ marksOf serial after :=
  List.filterMap_append

@[simp] theorem marksOf_own : marksOf serial [(serial, mark)] = [mark] := by
  simp [marksOf]

theorem marksOf_other {owner : Nat} (other : owner ≠ serial) :
    marksOf serial [(owner, mark)] = [] := by
  simp [marksOf, other]

theorem marksOf_eq_nil (foreign : ∀ entry ∈ line, entry.1 ≠ serial) :
    marksOf serial line = [] := by
  apply List.filterMap_eq_nil_iff.mpr
  intro entry member
  simp [foreign entry member]

theorem mem_of_mem_marksOf (member : mark ∈ marksOf serial line) :
    (serial, mark) ∈ line := by
  obtain ⟨⟨owner, made⟩, listed, own⟩ := List.mem_filterMap.mp member
  simp_all

theorem paced_turn (time : Nat) : Paced delay waits [.turn time] :=
  ⟨by simp, .singleton _⟩

theorem Paced.concat (paced : Paced delay waits marks)
    (latest : marks.getLast? = some last)
    (follows : Mark.Follows delay waits last mark) :
    Paced delay waits (marks ++ [mark]) := by
  obtain ⟨begins, chain⟩ := paced
  refine ⟨?_, ?_⟩
  · cases marks with
    | nil => simp at latest
    | cons first marks => simpa using begins
  · refine List.isChain_append.mpr ⟨chain, .singleton _, ?_⟩
    simpa [latest] using follows

/-- One supervisor makes a mark, and the others keep their pace. -/
theorem paced_entry {owner : Nat}
    (paced : ∀ serial, Paced delay waits (marksOf serial line))
    (further : Paced delay waits (marksOf owner line ++ [mark])) :
    ∀ serial, Paced delay waits (marksOf serial (line ++ [(owner, mark)])) := by
  intro serial
  rw [marksOf_append]
  by_cases own : owner = serial
  · subst own
    rwa [marksOf_own]
  · rw [marksOf_other own, List.append_nil]
    exact paced serial

/-! ## Where a supervisor stands -/

/-- How far a supervisor has come, by its last mark. -/
inductive Stands (link : Link) (waits : Prop) (supervisor : Supervisor) : Mark → Prop
  | waiting {time : Nat} (phase : supervisor.phase = .waiting)
      (past : time ≤ link.now)
      (once : waits → supervisor.dismissed = false → link.now ≤ time) :
      Stands link waits supervisor (.turn time)
  | attempting {time : Nat} (phase : supervisor.phase = .attempting)
      (past : time ≤ link.now) : Stands link waits supervisor (.attempt time)
  | delaying {time : Nat}
      (phase : supervisor.phase = .delaying (time + link.plan.reconnectDelay))
      (past : time ≤ link.now)
      (once : waits → supervisor.dismissed = false →
        link.now ≤ time + link.plan.reconnectDelay) :
      Stands link waits supervisor (.setback time)
  | online {time connection tickDue : Nat} {stage : Stage}
      (phase : supervisor.phase = .online connection tickDue stage)
      (past : time ≤ link.now) : Stands link waits supervisor (.opening time)
  | stranded {time : Nat} (phase : supervisor.phase = .stranded)
      (past : time ≤ link.now) : Stands link waits supervisor (.opening time)

theorem Stands.congr {heir : Supervisor} (stands : Stands link waits supervisor last)
    (now : next.now = link.now) (plan : next.plan = link.plan)
    (phase : heir.phase = supervisor.phase)
    (speaks : heir.dismissed = false → supervisor.dismissed = false) :
    Stands next waits heir last := by
  cases stands with
  | waiting before past once =>
      refine .waiting (phase.trans before) (now ▸ past) ?_
      exact fun waits speaking => now ▸ once waits (speaks speaking)
  | attempting before past => exact .attempting (phase.trans before) (now ▸ past)
  | delaying before past once =>
      refine .delaying (by rw [phase, before, plan]) (now ▸ past) ?_
      exact fun waits speaking => now ▸ plan ▸ once waits (speaks speaking)
  | online before past => exact .online (phase.trans before) (now ▸ past)
  | stranded before past => exact .stranded (phase.trans before) (now ▸ past)

theorem deadline_of_waiting (shape : link.supervisors = supervisor :: others)
    (speaks : supervisor.dismissed = false) (phase : supervisor.phase = .waiting) :
    link.deadline? = some link.now := by
  obtain ⟨serial, dismissed, wasOpen, parting, current⟩ := supervisor
  simp only at speaks phase
  subst speaks phase
  simp [deadline?, shape]

theorem deadline_of_delaying {due : Nat}
    (shape : link.supervisors = supervisor :: others)
    (speaks : supervisor.dismissed = false)
    (phase : supervisor.phase = .delaying due) : link.deadline? = some due := by
  obtain ⟨serial, dismissed, wasOpen, parting, current⟩ := supervisor
  simp only at speaks phase
  subst speaks phase
  simp [deadline?, shape]

theorem Stands.elapse {milliseconds : Nat}
    (stands : Stands link waits supervisor last)
    (shape : link.supervisors = supervisor :: others)
    (inTime : waits → link.InTime (.elapse milliseconds)) :
    Stands (link.elapse milliseconds) waits supervisor last := by
  cases stands with
  | waiting phase past once =>
      refine .waiting phase (Nat.le_add_right_of_le past) fun waiting speaks => ?_
      have still := inTime waiting _ (deadline_of_waiting shape speaks phase)
      exact Nat.le_trans still (once waiting speaks)
  | attempting phase past => exact .attempting phase (Nat.le_add_right_of_le past)
  | delaying phase past once =>
      refine .delaying phase (Nat.le_add_right_of_le past) fun waiting speaks => ?_
      exact inTime waiting _ (deadline_of_delaying shape speaks phase)
  | online phase past => exact .online phase (Nat.le_add_right_of_le past)
  | stranded phase past => exact .stranded phase (Nat.le_add_right_of_le past)

section Inversion

variable (stands : Stands link waits supervisor last)

include stands

theorem Stands.of_waiting (phase : supervisor.phase = .waiting) :
    ∃ time, last = .turn time ∧ time ≤ link.now ∧
      (waits → supervisor.dismissed = false → link.now ≤ time) := by
  cases stands <;> simp_all

theorem Stands.of_attempting (phase : supervisor.phase = .attempting) :
    ∃ time, last = .attempt time ∧ time ≤ link.now := by
  cases stands <;> simp_all

theorem Stands.of_delaying {due : Nat} (phase : supervisor.phase = .delaying due) :
    ∃ time, last = .setback time ∧ due = time + link.plan.reconnectDelay ∧
      (waits → supervisor.dismissed = false → link.now ≤ due) := by
  cases stands <;> simp_all

theorem Stands.of_online {connection tickDue : Nat} {stage : Stage}
    (phase : supervisor.phase = .online connection tickDue stage) :
    ∃ time, last = .opening time ∧ time ≤ link.now := by
  cases stands <;> simp_all

/-- A supervisor goes on with its connection. -/
theorem Stands.goOn {heir : Supervisor} {connection tickDue due : Nat}
    {stage further : Stage}
    (phase : supervisor.phase = .online connection tickDue stage)
    (ahead : heir.phase = .online connection due further)
    (now : next.now = link.now) : Stands next waits heir last := by
  obtain ⟨time, rfl, past⟩ := stands.of_online phase
  exact .online ahead (now ▸ past)

end Inversion

/-! ## What a move marks -/

theorem marked_of_journal {entries : List Report}
    (journal : next.journal = link.journal ++ entries) :
    marked link next = entries.filterMap (Report.mark? link.now) := by
  rw [marked, journal, List.drop_left]

/-- What becomes of the first supervisor in a move, and what it marks. -/
inductive Pacing (waits : Prop) (link : Link) (supervisor : Supervisor)
    (others : List Supervisor) (last : Mark) (next : Link) : Prop
  | on (heir : Supervisor) (fresh : Option Mark)
      (shape : next.supervisors = heir :: others)
      (serial : heir.serial = supervisor.serial)
      (marks : marked link next = fresh.toList)
      (follows : ∀ mark ∈ fresh,
        Mark.Follows link.plan.reconnectDelay waits last mark)
      (stands : Stands next waits heir (fresh.getD last))
  | out (fresh : Option Mark) (shape : next.supervisors = others)
      (marks : marked link next = fresh.toList)
      (follows : ∀ mark ∈ fresh,
        Mark.Follows link.plan.reconnectDelay waits last mark)

theorem pacing_silently {heir : Supervisor} {entries : List Report}
    (shape : next.supervisors = heir :: others)
    (serial : heir.serial = supervisor.serial)
    (journal : next.journal = link.journal ++ entries)
    (silent : entries.filterMap (Report.mark? link.now) = [])
    (stands : Stands next waits heir last) :
    Pacing waits link supervisor others last next := by
  refine .on heir none shape serial ?_ (by simp) stands
  rw [marked_of_journal journal, silent, Option.toList_none]

theorem pacing_nothing {heir : Supervisor}
    (shape : next.supervisors = heir :: others)
    (serial : heir.serial = supervisor.serial)
    (journal : next.journal = link.journal)
    (stands : Stands next waits heir last) :
    Pacing waits link supervisor others last next := by
  have same : next.journal = link.journal ++ [] := by simp [journal]
  exact pacing_silently shape serial same rfl stands

theorem pacing_on {heir : Supervisor} {entries : List Report}
    (shape : next.supervisors = heir :: others)
    (serial : heir.serial = supervisor.serial)
    (journal : next.journal = link.journal ++ entries)
    (fresh : entries.filterMap (Report.mark? link.now) = [mark])
    (follows : Mark.Follows link.plan.reconnectDelay waits last mark)
    (stands : Stands next waits heir mark) :
    Pacing waits link supervisor others last next := by
  refine .on heir (some mark) shape serial ?_ (by simpa using follows) stands
  rw [marked_of_journal journal, fresh, Option.toList_some]

theorem pacing_out {entries : List Report} (fresh : Option Mark)
    (shape : next.supervisors = others)
    (journal : next.journal = link.journal ++ entries)
    (marks : entries.filterMap (Report.mark? link.now) = fresh.toList)
    (follows : ∀ mark ∈ fresh,
      Mark.Follows link.plan.reconnectDelay waits last mark) :
    Pacing waits link supervisor others last next :=
  .out fresh shape ((marked_of_journal journal).trans marks) follows

theorem pacing_effort (shape : link.supervisors = supervisor :: others)
    (speaks : supervisor.dismissed = false)
    (stands : Stands link waits supervisor last)
    (effort : Effort link supervisor others next) :
    Pacing waits link supervisor others last next := by
  have now := Nat.le_refl link.now
  cases effort with
  | stay => exact pacing_nothing shape rfl rfl stands
  | attempt phase =>
      obtain ⟨time, rfl, past, once⟩ := stands.of_waiting phase
      have follows : Mark.Follows link.plan.reconnectDelay waits (.turn time)
          (.attempt link.now) :=
        .attempt rfl past fun waiting => Nat.le_antisymm (once waiting speaks) past
      exact pacing_on rfl rfl rfl rfl follows (.attempting rfl now)
  | @retry due phase ripe =>
      obtain ⟨time, rfl, wait, once⟩ := stands.of_delaying phase
      have follows : Mark.Follows link.plan.reconnectDelay waits (.setback time)
          (.attempt link.now) :=
        .attempt (congrArg some wait.symm) ripe
          fun waiting => Nat.le_antisymm (once waiting speaks) ripe
      exact pacing_on rfl rfl rfl rfl follows (.attempting rfl now)
  | refuse error phase =>
      obtain ⟨time, rfl, past⟩ := stands.of_attempting phase
      exact pacing_on rfl rfl rfl rfl (.refusal past)
        (.delaying rfl now fun _ _ => Nat.le_add_right ..)
  | openUp interval phase =>
      obtain ⟨time, rfl, past⟩ := stands.of_attempting phase
      exact pacing_on rfl rfl rfl rfl (.opening past) (.online rfl now)
  | strand interval phase =>
      obtain ⟨time, rfl, past⟩ := stands.of_attempting phase
      exact pacing_on rfl rfl rfl rfl (.opening past) (.stranded rfl now)
  | take due wakeUp sent phase =>
      exact pacing_nothing rfl rfl rfl (stands.goOn phase rfl rfl)
  | remind due phase =>
      exact pacing_silently rfl rfl rfl rfl (stands.goOn phase rfl rfl)
  | suspend due phase =>
      exact pacing_silently rfl rfl rfl rfl (stands.goOn phase rfl rfl)
  | lose error phase working =>
      obtain ⟨time, rfl, past⟩ := stands.of_online phase
      exact pacing_on rfl rfl rfl rfl (.loss past)
        (.delaying rfl now fun _ _ => Nat.le_add_right ..)
  | write phase =>
      exact pacing_silently rfl rfl rfl rfl (stands.goOn phase rfl rfl)

theorem pacing_farewell (shape : link.supervisors = supervisor :: others)
    (stands : Stands link waits supervisor last)
    (farewell : Farewell link supervisor others stimulus next) :
    Pacing waits link supervisor others last next := by
  cases farewell with
  | stay => exact pacing_nothing shape rfl rfl stands
  | giveUp offline => exact pacing_out none rfl rfl rfl (by simp)
  | depart phase => exact pacing_nothing rfl rfl rfl (stands.goOn phase rfl rfl)
  | finish phase =>
      exact pacing_silently rfl rfl rfl rfl (stands.goOn phase rfl rfl)
  | breakOff error failed phase =>
      obtain ⟨time, rfl, past⟩ := stands.of_online phase
      have follows : Mark.Follows link.plan.reconnectDelay waits (.opening time)
          (.setback link.now) := .loss past
      exact pacing_out (some _) rfl rfl rfl (by simpa using follows)
  | part phase =>
      exact pacing_silently rfl rfl rfl rfl (stands.goOn phase rfl rfl)
  | abandon error failed phase => exact pacing_out none rfl rfl rfl (by simp)
  | announce written phase =>
      exact pacing_silently rfl rfl rfl rfl (stands.goOn phase rfl rfl)
  | hush error failed phase =>
      exact pacing_silently rfl rfl rfl rfl (stands.goOn phase rfl rfl)
  | release phase silent => exact pacing_out none rfl rfl rfl (by simp)

theorem pacing_move (shape : link.supervisors = supervisor :: others)
    (stands : Stands link waits supervisor last)
    (move : Move link supervisor others stimulus next) :
    Pacing waits link supervisor others last next := by
  cases move with
  | effort speaks effort => exact pacing_effort shape speaks stands effort
  | farewell _ farewell => exact pacing_farewell shape stands farewell

/-! ## The marks of all of them -/

/-- The serials of those who have had their turn lie below this. -/
def begun (link : Link) : Nat :=
  match link.supervisors with
  | [] => link.started
  | first :: _ => first.serial + 1

/-- Each supervisor has kept its pace so far, and only those have marks that have
had their turn. -/
structure Kept (waits : Prop) (link : Link) (line : List (Nat × Mark)) : Prop where
  paced : ∀ serial, Paced link.plan.reconnectDelay waits (marksOf serial line)
  begun : ∀ entry ∈ line, entry.1 < link.begun

/-- So it is with all of them, and the first stands where its last mark says. -/
structure InPace (waits : Prop) (link : Link) (line : List (Nat × Mark)) : Prop
    extends Kept waits link line where
  stands : ∀ {first others}, link.supervisors = first :: others →
    ∃ last, (marksOf first.serial line).getLast? = some last ∧
      Stands link waits first last

theorem inPace_start (waits : Prop) (plan : LinkPlan) :
    InPace waits ({ plan } : Link) [] :=
  ⟨⟨fun _ => ⟨by simp, .nil⟩, by simp⟩, by simp⟩

theorem acting_of_cons (shape : link.supervisors = supervisor :: others) :
    link.acting? = some supervisor.serial := by
  simp [acting?, shape]

theorem begun_of_cons (shape : link.supervisors = supervisor :: others) :
    link.begun = supervisor.serial + 1 := by
  simp [Link.begun, shape]

theorem Manned.begun_le_started (manned : link.Manned) : link.begun ≤ link.started := by
  cases shape : link.supervisors with
  | nil => simp [Link.begun, shape]
  | cons first others =>
      rw [begun_of_cons shape]
      exact manned.started first (by simp [shape])

/-- The first supervisor keeps its pace with one more mark. -/
theorem Kept.work (kept : Kept waits link line)
    (shape : link.supervisors = supervisor :: others)
    (latest : (marksOf supervisor.serial line).getLast? = some last)
    {fresh : Option Mark}
    (follows : ∀ mark ∈ fresh,
      Mark.Follows link.plan.reconnectDelay waits last mark) :
    Kept waits link (line ++ fresh.toList.map (supervisor.serial, ·)) ∧
      (marksOf supervisor.serial
        (line ++ fresh.toList.map (supervisor.serial, ·))).getLast? =
          some (fresh.getD last) := by
  cases fresh with
  | none => simpa using ⟨kept, latest⟩
  | some mark =>
      have further := (kept.paced supervisor.serial).concat latest (follows mark rfl)
      refine ⟨⟨paced_entry kept.paced further, ?_⟩, by simp⟩
      intro entry member
      rcases List.mem_append.mp member with before | latest
      · exact kept.begun entry before
      · simp_all [begun_of_cons shape]

/-- It stays the turn of the same supervisor. -/
theorem Kept.goOn {heir : Supervisor} {rest : List Supervisor}
    (kept : Kept waits link line) (plan : next.plan = link.plan)
    (shape : link.supervisors = supervisor :: others)
    (leading : next.supervisors = heir :: rest)
    (serial : heir.serial = supervisor.serial)
    (latest : (marksOf supervisor.serial line).getLast? = some last)
    (stands : Stands next waits heir last) :
    InPace waits next (line ++ turned link next) := by
  have nobody : turned link next = [] := by
    simp [turned, acting_of_cons shape, acting_of_cons leading, serial]
  rw [nobody, List.append_nil]
  refine ⟨⟨plan ▸ kept.paced, ?_⟩, ?_⟩
  · rw [begun_of_cons leading, serial, ← begun_of_cons shape]
    exact kept.begun
  · intro first behind equality
    rw [leading] at equality
    cases equality
    exact ⟨last, serial ▸ latest, stands⟩

/-- It becomes the turn of another supervisor. -/
theorem Kept.passOn {heir : Supervisor} {rest : List Supervisor}
    (kept : Kept waits link line) (plan : next.plan = link.plan)
    (leading : next.supervisors = heir :: rest)
    (later : link.begun ≤ heir.serial) (waiting : heir.phase = .waiting) :
    InPace waits next (line ++ turned link next) := by
  have unmarked : marksOf heir.serial line = [] := by
    apply marksOf_eq_nil
    intro entry member
    exact Nat.ne_of_lt (Nat.lt_of_lt_of_le (kept.begun entry member) later)
  have other : link.acting? ≠ some heir.serial := by
    cases shape : link.supervisors with
    | nil => simp [acting?, shape]
    | cons first others =>
        rw [begun_of_cons shape] at later
        simp [acting_of_cons shape, Nat.ne_of_lt later]
  have turn : turned link next = [(heir.serial, .turn next.now)] := by
    simp [turned, acting_of_cons leading, other]
  have further : Paced link.plan.reconnectDelay waits
      (marksOf heir.serial line ++ [.turn next.now]) := by
    rw [unmarked]
    exact paced_turn next.now
  rw [turn]
  refine ⟨⟨plan ▸ paced_entry kept.paced further, ?_⟩, ?_⟩
  · intro entry member
    rw [begun_of_cons leading]
    rcases List.mem_append.mp member with before | latest
    · have early := kept.begun entry before
      omega
    · simp_all
  · intro first behind equality
    rw [leading] at equality
    cases equality
    refine ⟨.turn next.now, by simp [unmarked], ?_⟩
    exact .waiting waiting (Nat.le_refl _) fun _ _ => Nat.le_refl _

/-- Nobody is left. -/
theorem Kept.rest (kept : Kept waits link line) (plan : next.plan = link.plan)
    (nobody : next.supervisors = []) (started : link.begun ≤ next.started) :
    InPace waits next (line ++ turned link next) := by
  have none : turned link next = [] := by simp [turned, acting?, nobody]
  have all : next.begun = next.started := by simp [Link.begun, nobody]
  rw [none, List.append_nil]
  refine ⟨⟨plan ▸ kept.paced, ?_⟩, by simp [nobody]⟩
  intro entry member
  rw [all]
  exact Nat.lt_of_lt_of_le (kept.begun entry member) started

/-- The first supervisor is gone, and whoever is left stood behind it. -/
theorem Kept.leave (kept : Kept waits link line) (plan : next.plan = link.plan)
    (shape : link.supervisors = supervisor :: others)
    (left : ∀ other ∈ next.supervisors, Precedes supervisor other)
    (started : link.begun ≤ next.started) :
    InPace waits next (line ++ turned link next) := by
  cases leading : next.supervisors with
  | nil => exact kept.rest plan leading started
  | cons heir rest =>
      obtain ⟨_, waiting, ascending⟩ := left heir (by simp [leading])
      rw [← Nat.succ_le_iff, Nat.succ_eq_add_one, ← begun_of_cons shape] at ascending
      exact kept.passOn plan leading ascending waiting

theorem inPace_request (manned : link.Manned) (inPace : InPace waits link line)
    (request : Request link action next) (inTime : waits → link.InTime action) :
    InPace waits next (line ++ turned link next) := by
  have plan := plan_request request
  have kept := inPace.toKept
  cases shape : link.supervisors with
  | nil =>
      have began : link.begun = link.started := by simp [Link.begun, shape]
      cases request with
      | start unserved =>
          exact kept.passOn plan (by rw [shape]; rfl) (Nat.le_of_eq began) rfl
      | close serial serving => simp [served, shape] at serving
      | _ => exact kept.rest plan shape (Nat.le_of_eq began)
  | cons first others =>
      obtain ⟨last, latest, stands⟩ := inPace.stands shape
      cases request with
      | start unserved =>
          exact kept.goOn plan shape (by rw [shape]; rfl) rfl latest
            (stands.congr rfl rfl rfl id)
      | close serial serving =>
          -- A stranded supervisor is removed, and then the turn passes on.
          have left : ∀ other ∈ (others.filter (!isStranded ·)).map
              (dismiss link.handedOver), Precedes first other := by
            intro other member
            obtain ⟨source, remains, rfl⟩ := List.mem_map.mp member
            obtain ⟨superseded, waiting, ascending⟩ :=
              manned.behind shape source (List.mem_filter.mp remains).1
            exact ⟨superseded, by simp [waiting], by simp [ascending]⟩
          cases stranded : isStranded first with
          | true =>
              refine kept.leave plan shape ?_ manned.begun_le_started
              rwa [shape, List.filter_cons_of_neg (by simp [stranded])]
          | false =>
              have leading : (link.supervisors.filter (!isStranded ·)).map
                  (dismiss link.handedOver) = dismiss link.handedOver first ::
                    (others.filter (!isStranded ·)).map (dismiss link.handedOver) := by
                simp [shape, stranded]
              exact kept.goOn plan shape leading (serial_dismiss ..) latest
                (stands.congr rfl rfl (phase_dismiss ..) (by simp))
      | elapse milliseconds =>
          exact kept.goOn plan shape shape rfl latest (stands.elapse shape inTime)
      | _ =>
          exact kept.goOn plan shape shape rfl latest (stands.congr rfl rfl rfl id)

theorem inPace_move (manned : link.Manned) (inPace : InPace waits link line)
    (shape : link.supervisors = supervisor :: others)
    (move : Move link supervisor others stimulus next) :
    InPace waits next (line ++ marksBetween link next) := by
  have plan := plan_move move
  obtain ⟨last, latest, stands⟩ := inPace.stands shape
  have worked (fresh : Option Mark) (marks : marked link next = fresh.toList) :
      line ++ marksBetween link next =
        line ++ fresh.toList.map (supervisor.serial, ·) ++ turned link next := by
    simp [marksBetween, acting_of_cons shape, marks]
  cases pacing_move shape stands move with
  | on heir fresh leading serial marks follows stands =>
      obtain ⟨kept, latest⟩ := inPace.toKept.work shape latest follows
      rw [worked fresh marks]
      exact kept.goOn plan shape leading serial latest stands
  | out fresh leading marks follows =>
      obtain ⟨kept, _⟩ := inPace.toKept.work shape latest follows
      rw [worked fresh marks]
      refine kept.leave plan shape (leading ▸ manned.behind shape) ?_
      rw [started_move move]
      exact manned.begun_le_started

theorem marked_request (request : Request link action next) : marked link next = [] := by
  cases request <;> simp [marked, Report.mark?]

theorem inPace_perform (manned : link.Manned) (inPace : InPace waits link line)
    (action : Action) (inTime : waits → link.InTime action) :
    InPace waits (link.perform action) (line ++ marksBetween link (link.perform action)) := by
  have change := change_perform manned.first action
  generalize link.perform action = next at change ⊢
  cases change with
  | request request =>
      have nothing : marksBetween link next = turned link next := by
        simp [marksBetween, marked_request request]
      rw [nothing]
      exact inPace_request manned inPace request inTime
  | move shape move => exact inPace_move manned inPace shape move
  | rest stimulus =>
      have nothing : marksBetween link link = [] := by
        unfold marksBetween turned
        cases link.acting? <;> simp [marked]
      rwa [nothing, List.append_nil]

theorem inPace_run (manned : link.Manned) (inPace : InPace waits link line)
    (actions : List Action) (inTime : waits → link.Waits actions) :
    InPace waits (link.run actions) (line ++ link.timeline actions) := by
  induction actions generalizing link line with
  | nil => simpa [timeline] using inPace
  | cons action actions induction =>
      have further := inPace_perform manned inPace action fun waiting => (inTime waiting).1
      rw [run_cons, timeline, ← List.append_assoc]
      exact induction (manned_perform manned action) further
        fun waiting => (inTime waiting).2

/-! ## All attempts are marked -/

theorem attempted_of_journal (journal : link.journal <+: next.journal) :
    next.attempted =
      link.attempted ++ (marked link next).filterMap Mark.attemptTime? := by
  obtain ⟨entries, grown⟩ := journal
  rw [marked_of_journal grown.symm, List.filterMap_filterMap, attempted, attempted,
    ← grown, List.filterMap_append]
  congr 2
  funext entry
  cases entry <;> rfl

theorem attemptTime_turned :
    (turned link next).filterMap (·.2.attemptTime?) = [] := by
  unfold turned
  split
  · rfl
  · split <;> rfl

theorem attempted_perform (manned : link.Manned) (action : Action) :
    (link.perform action).attempted = link.attempted ++
      (marksBetween link (link.perform action)).filterMap (·.2.attemptTime?) := by
  have change := change_perform manned.first action
  generalize link.perform action = next at change ⊢
  simp only [marksBetween, List.filterMap_append, attemptTime_turned, List.append_nil]
  cases change with
  | request request =>
      rw [attempted_of_journal (journal_request request)]
      simp [marked_request request]
  | move shape move =>
      rw [attempted_of_journal (journal_move move)]
      simp [acting_of_cons shape, List.filterMap_map]
  | rest stimulus => simp [marked]

theorem attempted_run (manned : link.Manned) (actions : List Action) :
    (link.run actions).attempted =
      link.attempted ++ (link.timeline actions).filterMap (·.2.attemptTime?) := by
  induction actions generalizing link with
  | nil => simp [timeline]
  | cons action actions induction =>
      rw [run_cons, induction (manned_perform manned action), attempted_perform manned,
        timeline, List.filterMap_append, List.append_assoc]

/-! ## After the end of the request -/

theorem marked_farewell (farewell : Farewell link supervisor others stimulus next) :
    ∀ mark ∈ marked link next, mark.isEffort = false := by
  cases farewell <;> simp [marked, Report.mark?, Mark.isEffort]

/-- Those off record make no attempt, and none of theirs succeeds. -/
theorem effortless_perform {bound : Nat} (manned : link.Manned)
    (retired : link.Retired bound) (action : Action) :
    ∀ entry ∈ marksBetween link (link.perform action),
      entry.1 < bound → entry.2.isEffort = false := by
  have change := change_perform manned.first action
  generalize link.perform action = next at change ⊢
  intro entry member old
  rcases List.mem_append.mp member with worked | turn
  · obtain ⟨serial, acting, worked⟩ := List.mem_flatMap.mp worked
    obtain ⟨mark, made, rfl⟩ := List.mem_map.mp worked
    cases change with
    | request request => simp [marked_request request] at made
    | @move supervisor others _ _ shape move =>
        have own : serial = supervisor.serial := by
          simpa [acting_of_cons shape] using acting
        have dismissed := retired supervisor (by simp [shape]) (own ▸ old)
        cases move with
        | effort speaks _ => simp [dismissed] at speaks
        | farewell _ farewell => exact marked_farewell farewell mark made
    | rest stimulus => simp [marked] at made
  · unfold turned at turn
    split at turn
    · simp at turn
    · split at turn <;> simp_all [Mark.isEffort]

theorem effortless_run {bound : Nat} (manned : link.Manned)
    (retired : link.Retired bound) (old : bound ≤ link.started)
    (actions : List Action) :
    ∀ entry ∈ link.timeline actions, entry.1 < bound → entry.2.isEffort = false := by
  induction actions generalizing link with
  | nil => simp [timeline]
  | cons action actions induction =>
      have grown := Nat.le_trans old (started_le_perform manned.first action)
      have still := retired_perform manned.first retired old action
      intro entry member
      rcases List.mem_append.mp member with now | later
      · exact effortless_perform manned retired action entry now
      · exact induction (manned_perform manned action) still grown entry later

/-! ## Whole runs -/

theorem timeline_append (before after : List Action) :
    link.timeline (before ++ after) =
      link.timeline before ++ (link.run before).timeline after := by
  induction before generalizing link with
  | nil => rfl
  | cons action before induction =>
      rw [List.cons_append, timeline, induction, timeline, run_cons, List.append_assoc]

theorem Stands.now_le_due {due : Nat} (stands : Stands link waits supervisor last)
    (wait : last.due? link.plan.reconnectDelay = some due) (waiting : waits)
    (speaks : supervisor.dismissed = false) : link.now ≤ due := by
  cases stands with
  | waiting _ _ once => exact Option.some.inj wait ▸ once waiting speaks
  | delaying _ _ once => exact Option.some.inj wait ▸ once waiting speaks
  | _ => simp [Mark.due?] at wait

/-- The first supervisor makes its attempt when it is due. -/
theorem Stands.attempt {due : Nat} (stands : Stands link waits supervisor last)
    (shape : link.supervisors = supervisor :: others)
    (speaks : supervisor.dismissed = false)
    (wait : last.due? link.plan.reconnectDelay = some due) (ripe : due ≤ link.now) :
    ∃ stimulus ∈ [Stimulus.turn, .delayOver],
      (link.step stimulus).journal = link.journal ++ [.attempting link.now] := by
  cases stands with
  | waiting phase _ _ =>
      refine ⟨.turn, by simp, ?_⟩
      simp [step, shape, stepOf, phase, speaks, Link.attempt, proceed]
  | delaying phase _ _ =>
      have past := Option.some.inj wait ▸ ripe
      refine ⟨.delayOver, by simp, ?_⟩
      simp [step, shape, stepOf, phase, speaks, Link.attempt, proceed, past]
  | _ => simp [Mark.due?] at wait

theorem condition_of_retired {bound : Nat} (manned : link.Manned)
    (retired : link.Retired bound) (shape : link.supervisors = supervisor :: others)
    (old : supervisor.serial < bound) (stimulus : Stimulus) :
    (link.step stimulus).condition = link.condition := by
  have dismissed := retired supervisor (by simp [shape]) old
  cases move_step shape (manned.first shape) stimulus with
  | effort speaks _ => simp [dismissed] at speaks
  | farewell _ farewell => exact (farewell_unseen farewell).1

/-- In every run each attempt is marked for one supervisor, and those of a
supervisor follow one another: the first when nobody is before it any more, and
every later one a full reconnect delay after the refusal or loss before it.  If
time waits for the supervisor, none is later than that.

While a connection is requested and only its supervisor is left, the next
attempt is not overdue if time waits, and is made once it is due.

From a moment without a request on, such as after closing the link or when the
session was suspended, the supervisors started so far make no attempt any more
and have no success, and nothing that happens to them changes the state of the
link. -/
theorem attempts_paced (plan : LinkPlan) (actions : List Action) :
    let start : Link := { plan }
    let link := start.run actions
    let marks := fun serial => marksOf serial (start.timeline actions)
    (start.timeline actions).filterMap (·.2.attemptTime?) = link.attempted ∧
      (∀ serial, Paced plan.reconnectDelay (start.Waits actions) (marks serial)) ∧
      (∀ supervisor, link.requested = true → link.supervisors = [supervisor] →
        ∃ last, (marks supervisor.serial).getLast? = some last ∧
          ∀ due, last.due? plan.reconnectDelay = some due →
            (start.Waits actions → link.now ≤ due) ∧
            (due ≤ link.now → ∃ stimulus ∈ [Stimulus.turn, .delayOver],
              (link.step stimulus).journal =
                link.journal ++ [.attempting link.now])) ∧
      ∀ before after, actions = before ++ after →
        (start.run before).requested = false →
        (∀ serial < (start.run before).started,
          ∃ rest, marks serial = marksOf serial (start.timeline before) ++ rest ∧
            ∀ mark ∈ rest, mark.isEffort = false) ∧
        ∀ supervisor others stimulus, link.supervisors = supervisor :: others →
          supervisor.serial < (start.run before).started →
            (link.step stimulus).condition = link.condition := by
  intro start link marks
  have manned : link.Manned := manned_run plan actions
  have samePlan : link.plan = plan := (manned_start plan).plan_run actions
  have inPace : InPace (start.Waits actions) link ([] ++ start.timeline actions) :=
    inPace_run (manned_start plan) (inPace_start _ plan) actions id
  rw [List.nil_append] at inPace
  have all := attempted_run (manned_start plan) actions
  refine ⟨all.symm, samePlan ▸ inPace.paced, ?_, ?_⟩
  · intro supervisor wanted shape
    have speaks : supervisor.dismissed = false := by
      have serving := manned.recorded.requested.trans wanted
      simpa [served, shape] using serving
    obtain ⟨last, latest, stands⟩ := inPace.stands shape
    refine ⟨last, latest, fun due wait => ?_⟩
    rw [← samePlan] at wait
    exact ⟨fun waiting => stands.now_le_due wait waiting speaks,
      stands.attempt shape speaks wait⟩
  · intro before after split unwanted
    have known := manned_run plan before
    have retired : (start.run before).Retired (start.run before).started :=
      fun other member _ => known.recorded.dismissed_of_unwanted unwanted other member
    refine ⟨fun serial old => ?_, ?_⟩
    · refine ⟨marksOf serial ((start.run before).timeline after), ?_, ?_⟩
      · simp only [marks, split, timeline_append, marksOf_append]
      · intro mark member
        have listed := mem_of_mem_marksOf member
        exact effortless_run known retired (Nat.le_refl _) after _ listed old
    · intro supervisor others stimulus shape old
      have still : link.Retired (start.run before).started := by
        have later := retired_run known (Nat.le_refl _) after (.inl retired)
        rwa [← run_append, ← split] at later
      exact condition_of_retired manned still shape old stimulus

/-- One supervisor is refused, loses its connection and makes a third attempt,
during which the link is closed and a connection asked for again. -/
theorem attempts_paced_closed :
    let start : Link := { plan := ⟨"ws://portal/S1", ⟨"S1"⟩, 1000, 60000, none⟩ }
    let lost : List Action :=
      [.connect, .react .turn, .react (.refused .connectionClosed), .elapse 1000,
        .react .delayOver, .react .accepted, .elapse 5,
        .react (.readFailed .connectionClosed)]
    let closed := lost ++ [.elapse 1000, .react .delayOver, .close]
    let again := closed ++ [.connect]
    (start.Waits lost ∧
      marksOf 0 (start.timeline lost) =
        [.turn 0, .attempt 0, .setback 0, .attempt 1000, .opening 1000,
          .setback 1005] ∧
      Paced 1000 (start.Waits lost) (marksOf 0 (start.timeline lost)) ∧
      (start.run lost).now ≤ 1005 + 1000) ∧
    (start.run closed).requested = false ∧
      (∃ rest, marksOf 0 (start.timeline again) =
          marksOf 0 (start.timeline closed) ++ rest ∧
        ∀ mark ∈ rest, mark.isEffort = false) ∧
      ((start.run again).step .accepted).condition = .connecting := by
  intro start lost closed again
  have waits : start.Waits lost := by decide
  have marks : marksOf 0 (start.timeline lost) =
      [.turn 0, .attempt 0, .setback 0, .attempt 1000, .opening 1000,
        .setback 1005] := by decide
  have alone : (start.run lost).supervisors =
      [{ serial := 0, wasOpen := true, phase := .delaying 2005 }] := by decide
  have both : (start.run again).supervisors =
      [{ serial := 0, dismissed := true, wasOpen := true, phase := .attempting },
        { serial := 1 }] := by decide
  have unwanted : (start.run closed).requested = false := by decide
  obtain ⟨_, paced, eager, _⟩ := attempts_paced start.plan lost
  obtain ⟨last, latest, punctual⟩ := eager _ (by decide) alone
  have final : (marksOf 0 (start.timeline lost)).getLast? = some last := latest
  have known : last = .setback 1005 := by
    rw [marks] at final
    simpa using final.symm
  have due : last.due? 1000 = some 2005 := by rw [known]; rfl
  obtain ⟨_, _, _, dropped⟩ := attempts_paced start.plan again
  obtain ⟨rested, aside⟩ := dropped closed [.connect] rfl unwanted
  have still := aside _ _ .accepted both (by decide)
  exact ⟨⟨waits, marks, paced 0, (punctual 2005 due).1 waits⟩, unwanted,
    rested 0 (by decide), still.trans (by decide)⟩

end PageSession.Link
