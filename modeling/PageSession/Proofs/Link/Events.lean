import PageSession.Proofs.Link.Lifecycle

/-!
# What the page is told of the link

Each supervisor tells a block of events, and its last word is that it has ended.
Before that it tells of its first connection, of each loss and the connection
that followed, and at last of a loss or of the suspended session.  One that
never had a connection tells nothing else.

The blocks follow one another in the order in which the supervisors were
started.
-/

namespace PageSession

namespace Link

def Report.event? : Report → Option LinkEvent
  | .event tidings => some tidings
  | _ => none

def events (link : Link) : List LinkEvent :=
  link.journal.filterMap Report.event?

/-- What the page is told in the course of an action, each with the serial of
the supervisor that tells it.  It is the first one, for only this one acts. -/
def toldBy (link : Link) (action : Action) : List (Nat × LinkEvent) :=
  match link.supervisors with
  | [] => []
  | first :: _ =>
      ((link.perform action).events.drop link.events.length).map
        (first.serial, ·)

/-- What the page is told in the course of some actions, and by whom. -/
def tellings (link : Link) : List Action → List (Nat × LinkEvent)
  | [] => []
  | action :: actions =>
      link.toldBy action ++ (link.perform action).tellings actions

/-- The events of lost connections each of which was restored. -/
def setbacks : Nat → List LinkEvent
  | 0 => []
  | count + 1 => .connectionLost :: .connectionRestored :: setbacks count

/-- The events of a supervisor that has ended. -/
inductive Block : List LinkEvent → Prop
  /-- It never had a connection. -/
  | silent : Block [.closed]
  | spoken (count : Nat) {ending : List LinkEvent}
      (allowed : ending ∈ [[], [.connectionLost], [.sessionSuspended]]) :
      Block (.connected :: setbacks count ++ ending ++ [.closed])

/-- The events of a supervisor that has not ended. -/
def CutShort (told : List LinkEvent) : Prop :=
  ∃ rest, rest ≠ [] ∧ Block (told ++ rest)

/-- Blocks one after the other, each event with the number of its block. -/
def spell (blocks : List (List LinkEvent)) : List (Nat × LinkEvent) :=
  blocks.zipIdx.flatMap fun (block, serial) => block.map (serial, ·)

end Link

/-- What a supervisor has told that has come so far. -/
def Supervisor.Tells (supervisor : Supervisor) (told : List LinkEvent) : Prop :=
  match supervisor.phase with
  | .waiting => supervisor.wasOpen = false ∧ told = []
  | .attempting | .delaying _ =>
      if supervisor.wasOpen then
        ∃ count, told = .connected :: Link.setbacks count ++ [.connectionLost]
      else told = []
  | .online _ _ .suspending =>
      ∃ count, told = .connected :: Link.setbacks count ++ [.sessionSuspended]
  | .online _ _ _ =>
      supervisor.wasOpen = true ∧ ∃ count, told = .connected :: Link.setbacks count
  | .stranded => False

namespace Link

variable {link next : Link} {supervisor : Supervisor} {others : List Supervisor}
  {stimulus : Stimulus} {action : Action} {told : List LinkEvent}

theorem setbacks_succ (count : Nat) :
    setbacks (count + 1) =
      setbacks count ++ [.connectionLost, .connectionRestored] := by
  induction count with
  | zero => rfl
  | succ count induction =>
      calc
        setbacks (count + 2)
          = .connectionLost :: .connectionRestored :: setbacks (count + 1) := rfl
        _ = .connectionLost :: .connectionRestored ::
              (setbacks count ++ [.connectionLost, .connectionRestored]) := by
            rw [induction]
        _ = setbacks (count + 1) ++ [.connectionLost, .connectionRestored] := rfl

theorem closed_not_mem_setbacks (count : Nat) :
    LinkEvent.closed ∉ setbacks count := by
  induction count with
  | zero => simp [setbacks]
  | succ count induction => simp [setbacks, induction]

/-- Its last event says that a supervisor has ended, and no other does. -/
theorem Block.closed {block : List LinkEvent} (whole : Block block) :
    ∃ rest, block = rest ++ [.closed] ∧ .closed ∉ rest := by
  cases whole with
  | silent => exact ⟨[], rfl, by simp⟩
  | @spoken count ending allowed =>
      have none := closed_not_mem_setbacks count
      refine ⟨_, rfl, ?_⟩
      simp only [List.mem_cons, List.not_mem_nil, or_false] at allowed
      rcases allowed with rfl | rfl | rfl <;> simp [none]

@[simp] theorem spell_concat (blocks : List (List LinkEvent))
    (block : List LinkEvent) :
    spell (blocks ++ [block]) =
      spell blocks ++ block.map (blocks.length, ·) := by
  simp [spell, List.zipIdx_append]

/-! ## What one supervisor tells -/

theorem tells_congr {heir : Supervisor} (tells : supervisor.Tells told)
    (phase : heir.phase = supervisor.phase)
    (wasOpen : heir.wasOpen = supervisor.wasOpen) : heir.Tells told := by
  unfold Supervisor.Tells at tells ⊢
  rw [phase, wasOpen]
  exact tells

theorem tells_online {connection tickDue : Nat} {stage : Stage}
    (tells : supervisor.Tells told)
    (phase : supervisor.phase = .online connection tickDue stage)
    (going : stage ≠ .suspending) :
    supervisor.wasOpen = true ∧ ∃ count, told = .connected :: setbacks count := by
  unfold Supervisor.Tells at tells
  rw [phase] at tells
  cases stage with
  | suspending => exact absurd rfl going
  | _ => exact tells

theorem tells_of_online {connection tickDue : Nat} {stage : Stage}
    (phase : supervisor.phase = .online connection tickDue stage)
    (going : stage ≠ .suspending) (wasOpen : supervisor.wasOpen = true)
    (count : Nat) : supervisor.Tells (.connected :: setbacks count) := by
  unfold Supervisor.Tells
  rw [phase]
  cases stage with
  | suspending => exact absurd rfl going
  | _ => exact ⟨wasOpen, count, rfl⟩

/-- A supervisor that goes on with its connection has nothing to tell. -/
theorem tells_goOn {heir : Supervisor} {connection tickDue due : Nat}
    {stage further : Stage} (tells : supervisor.Tells told)
    (phase : supervisor.phase = .online connection tickDue stage)
    (going : stage ≠ .suspending)
    (ahead : heir.phase = .online connection due further)
    (further_going : further ≠ .suspending)
    (wasOpen : heir.wasOpen = supervisor.wasOpen) : heir.Tells told := by
  obtain ⟨opened, count, rfl⟩ := tells_online tells phase going
  exact tells_of_online ahead further_going (wasOpen.trans opened) count

/-- A supervisor can end whatever it has told. -/
theorem block_of_tells (tells : supervisor.Tells told) :
    Block (told ++ [.closed]) := by
  unfold Supervisor.Tells at tells
  split at tells
  · rw [tells.2]
    exact .silent
  · split at tells
    · obtain ⟨count, rfl⟩ := tells
      exact .spoken count (by simp)
    · rw [tells]
      exact .silent
  · split at tells
    · obtain ⟨count, rfl⟩ := tells
      exact .spoken count (by simp)
    · rw [tells]
      exact .silent
  · obtain ⟨count, rfl⟩ := tells
    exact .spoken count (by simp)
  · obtain ⟨_, count, rfl⟩ := tells
    have block := @Block.spoken count [] (by simp)
    simpa using block
  · exact tells.elim

theorem cutShort_of_tells (tells : supervisor.Tells told) : CutShort told :=
  ⟨[.closed], by simp, block_of_tells tells⟩

/-- What becomes of the first supervisor in a move, and what it tells. -/
inductive Telling (link : Link) (supervisor : Supervisor)
    (others : List Supervisor) (told : List LinkEvent) (next : Link) : Prop
  | on (heir : Supervisor) (fresh : List LinkEvent)
      (shape : next.supervisors = heir :: others)
      (serial : heir.serial = supervisor.serial)
      (events : next.events = link.events ++ fresh)
      (endings : next.endings = link.endings)
      (tells : heir.Tells (told ++ fresh))
  | out (fresh : List LinkEvent) (shape : next.supervisors = others)
      (events : next.events = link.events ++ fresh)
      (endings : next.endings = link.endings ++ [supervisor.serial])
      (block : Block (told ++ fresh))

/-- The first supervisor goes on and reports some entries. -/
theorem telling_on {heir : Supervisor} {entries : List Report}
    (shape : next.supervisors = heir :: others)
    (serial : heir.serial = supervisor.serial)
    (journal : next.journal = link.journal ++ entries)
    (lasting : entries.filterMap Report.endedSerial? = [])
    (tells : heir.Tells (told ++ entries.filterMap Report.event?)) :
    Telling link supervisor others told next := by
  refine .on heir _ shape serial ?_ ?_ tells
  · rw [events, journal, List.filterMap_append, events]
  · rw [endings, journal, List.filterMap_append, lasting, List.append_nil,
      endings]

theorem telling_silently {heir : Supervisor} {entries : List Report}
    (shape : next.supervisors = heir :: others)
    (serial : heir.serial = supervisor.serial)
    (journal : next.journal = link.journal ++ entries)
    (lasting : entries.filterMap Report.endedSerial? = [])
    (silent : entries.filterMap Report.event? = []) (tells : heir.Tells told) :
    Telling link supervisor others told next := by
  apply telling_on shape serial journal lasting
  rwa [silent, List.append_nil]

theorem telling_nothing {heir : Supervisor}
    (shape : next.supervisors = heir :: others)
    (serial : heir.serial = supervisor.serial)
    (journal : next.journal = link.journal) (tells : heir.Tells told) :
    Telling link supervisor others told next := by
  have same : next.journal = link.journal ++ [] := by simp [journal]
  exact telling_silently shape serial same rfl rfl tells

theorem telling_out {entries : List Report}
    (shape : next.supervisors = others)
    (journal : next.journal = link.journal ++ entries)
    (ends : entries.filterMap Report.endedSerial? = [supervisor.serial])
    (block : Block (told ++ entries.filterMap Report.event?)) :
    Telling link supervisor others told next := by
  refine .out _ shape ?_ ?_ block
  · rw [events, journal, List.filterMap_append, events]
  · rw [endings, journal, List.filterMap_append, ends, endings]

theorem tells_openUp {connection due : Nat} (queue : List String)
    (tells : supervisor.Tells told) (phase : supervisor.phase = .attempting) :
    Supervisor.Tells
      { supervisor with
        wasOpen := true, phase := .online connection due (.taking queue) }
      (told ++ [if supervisor.wasOpen then .connectionRestored else .connected]) := by
  simp only [Supervisor.Tells, phase] at tells
  cases flag : supervisor.wasOpen with
  | false =>
      simp only [flag, Bool.false_eq_true, if_false] at tells ⊢
      rw [tells]
      exact tells_of_online rfl (by simp) rfl 0
  | true =>
      simp only [flag, if_true] at tells ⊢
      obtain ⟨count, rfl⟩ := tells
      have restored : .connected :: setbacks count ++ [.connectionLost] ++
          [.connectionRestored] = LinkEvent.connected :: setbacks (count + 1) := by
        simp [setbacks_succ]
      rw [restored]
      exact tells_of_online rfl (by simp) rfl (count + 1)

theorem telling_effort (interval : 0 < link.plan.keepAliveInterval)
    (shape : link.supervisors = supervisor :: others)
    (tells : supervisor.Tells told)
    (effort : Effort link supervisor others next) :
    Telling link supervisor others told next := by
  cases effort with
  | stay => exact telling_nothing shape rfl rfl tells
  | attempt phase =>
      refine telling_silently rfl rfl rfl rfl rfl ?_
      simp_all [Supervisor.Tells]
  | retry phase =>
      refine telling_silently rfl rfl rfl rfl rfl ?_
      simpa [Supervisor.Tells, phase] using tells
  | refuse error phase =>
      refine telling_silently rfl rfl rfl rfl rfl ?_
      simpa [Supervisor.Tells, phase] using tells
  | openUp _ phase =>
      refine telling_on rfl rfl rfl rfl ?_
      exact tells_openUp link.outbound tells phase
  -- With an interval for ticks no supervisor is stranded.
  | strand none phase => omega
  | take due wakeUp sent phase =>
      refine telling_nothing rfl rfl rfl ?_
      exact tells_goOn tells phase (by simp) rfl (by simp) rfl
  | remind due phase =>
      refine telling_silently rfl rfl rfl rfl rfl ?_
      exact tells_goOn tells phase (by simp) rfl (by simp) rfl
  | suspend due phase =>
      obtain ⟨wasOpen, count, rfl⟩ := tells_online tells phase (by simp)
      refine telling_on rfl rfl rfl rfl ?_
      exact ⟨count, rfl⟩
  | @lose _ _ stage error phase working =>
      have going : stage ≠ .suspending := by
        rintro rfl
        simp [Stage.retires] at working
      obtain ⟨wasOpen, count, rfl⟩ := tells_online tells phase going
      refine telling_on rfl rfl rfl rfl ?_
      simp only [Supervisor.Tells, wasOpen, if_true]
      exact ⟨count, rfl⟩
  | write phase =>
      refine telling_silently rfl rfl rfl rfl rfl ?_
      exact tells_goOn tells phase (by simp) rfl (by simp) rfl

theorem telling_farewell (shape : link.supervisors = supervisor :: others)
    (tells : supervisor.Tells told)
    (farewell : Farewell link supervisor others stimulus next) :
    Telling link supervisor others told next := by
  have whole := block_of_tells tells
  cases farewell with
  | stay => exact telling_nothing shape rfl rfl tells
  | giveUp offline => exact telling_out rfl rfl rfl whole
  | depart phase =>
      refine telling_nothing rfl rfl rfl ?_
      exact tells_goOn tells phase (by simp) rfl (by simp) rfl
  | finish phase =>
      refine telling_silently rfl rfl rfl rfl rfl ?_
      exact tells_goOn tells phase (by simp) rfl (by simp) rfl
  | breakOff error failed phase =>
      obtain ⟨wasOpen, count, rfl⟩ := tells_online tells phase (by simp)
      refine telling_out rfl rfl rfl ?_
      have block := @Block.spoken count [.connectionLost] (by simp)
      simpa [List.filterMap_cons, Report.event?] using block
  | part phase =>
      refine telling_silently rfl rfl rfl rfl rfl ?_
      exact tells_goOn tells phase (by simp) rfl (by simp) rfl
  | abandon error failed phase => exact telling_out rfl rfl rfl whole
  | announce written phase =>
      refine telling_silently rfl rfl rfl rfl rfl ?_
      exact tells_goOn tells phase (by simp) rfl (by simp) rfl
  | hush error failed phase =>
      refine telling_silently rfl rfl rfl rfl rfl ?_
      exact tells_goOn tells phase (by simp) rfl (by simp) rfl
  | release phase _ => exact telling_out rfl rfl rfl whole

/-! ## What all of them tell -/

/-- The blocks of the supervisors that have ended, and what the next one has
told. -/
structure Spoken (link : Link) (blocks : List (List LinkEvent))
    (told : List LinkEvent) : Prop where
  ended : link.endings.length = blocks.length
  complete : ∀ block ∈ blocks, Block block
  first : ∀ {supervisor others}, link.supervisors = supervisor :: others →
    supervisor.Tells told
  silent : link.supervisors = [] → told = []
  unopened : ∀ supervisor ∈ link.supervisors, supervisor.phase = .waiting →
    supervisor.wasOpen = false

variable {blocks : List (List LinkEvent)}

theorem events_request (request : Request link action next) :
    next.events = link.events := by
  cases request <;> simp [events, List.filterMap_cons, Report.event?]

theorem endings_request (request : Request link action next) :
    next.endings = link.endings := by
  cases request <;> simp [endings, List.filterMap_cons, Report.endedSerial?]

theorem spoken_request (orderly : link.Orderly)
    (spoken : link.Spoken blocks told) (request : Request link action next) :
    next.Spoken blocks told := by
  obtain ⟨ended, complete, first, silent, unopened⟩ := spoken
  refine ⟨by rw [endings_request request, ended], complete, ?_, ?_, ?_⟩
  · intro heir rest shape
    rcases origin_of_request orderly request shape with
      ⟨none, waiting, closed⟩ | ⟨head, others, before, rfl | ⟨_, rfl⟩⟩
    · rw [silent none]
      simp [Supervisor.Tells, waiting, closed]
    · exact first before
    · exact tells_congr (first before) (phase_dismiss ..) (wasOpen_dismiss ..)
  · intro none
    cases request with
    | start unserved => simp at none
    | close serial serving =>
        rw [filter_stranded orderly] at none
        exact silent (List.map_eq_nil_iff.mp none)
    | _ => exact silent none
  · cases request with
    | start unserved =>
        intro other member waiting
        rcases List.mem_append.mp member with member | newcomer
        · exact unopened other member waiting
        · rw [List.mem_singleton.mp newcomer]
    | close serial serving =>
        intro other member waiting
        rw [filter_stranded orderly] at member
        obtain ⟨source, kept, rfl⟩ := List.mem_map.mp member
        rw [phase_dismiss] at waiting
        rw [wasOpen_dismiss]
        exact unopened source kept waiting
    | _ => exact unopened

theorem telling_move (interval : 0 < link.plan.keepAliveInterval)
    (shape : link.supervisors = supervisor :: others)
    (tells : supervisor.Tells told)
    (move : Move link supervisor others stimulus next) :
    Telling link supervisor others told next := by
  cases move with
  | effort _ effort => exact telling_effort interval shape tells effort
  | farewell _ farewell => exact telling_farewell shape tells farewell

/-- A move of the first supervisor goes on with its block or ends it. -/
theorem spoken_move (sound : link.Sound) (spoken : link.Spoken blocks told)
    (shape : link.supervisors = supervisor :: others)
    (move : Move link supervisor others stimulus next) :
    ∃ further saying fresh, next.Spoken further saying ∧
      next.events = link.events ++ fresh ∧
      spell (further ++ [saying]) =
        spell (blocks ++ [told]) ++ fresh.map (supervisor.serial, ·) := by
  have leads := sound.orderly.leads shape
  have number : supervisor.serial = blocks.length := by
    rw [serial_eq_length_endings sound.accounted shape, spoken.ended]
  have unopened := spoken.unopened
  rw [shape, List.forall_mem_cons] at unopened
  -- The number of the block is the serial of the first supervisor.  Its block
  -- grows in place, or is complete and the next one begins.
  cases telling_move sound.orderly.interval shape (spoken.first shape) move with
  | on heir fresh leading serial events endings tells =>
      refine ⟨blocks, told ++ fresh, fresh, ⟨?_, spoken.complete, ?_, ?_, ?_⟩,
        events, ?_⟩
      · rw [endings, spoken.ended]
      · intro head rest equality
        rw [leading] at equality
        cases equality
        exact tells
      · simp [leading]
      · rw [leading, List.forall_mem_cons]
        refine ⟨fun waiting => ?_, unopened.2⟩
        simp only [Supervisor.Tells, waiting] at tells
        exact tells.1
      · simp [number]
  | out fresh leading events endings block =>
      refine ⟨blocks ++ [told ++ fresh], [], fresh, ⟨?_, ?_, ?_, fun _ => rfl, ?_⟩,
        events, ?_⟩
      · simp [endings, spoken.ended]
      · intro other member
        rcases List.mem_append.mp member with member | last
        · exact spoken.complete other member
        · rw [List.mem_singleton.mp last]
          exact block
      · intro head rest equality
        rw [leading] at equality
        have behind : head ∈ others := by simp [equality]
        have waiting := (leads.behind head behind).1
        simp [Supervisor.Tells, waiting, unopened.2 head behind waiting]
      · rw [leading]
        exact unopened.2
      · rw [spell_concat, spell_concat, spell_concat, number]
        simp

theorem toldBy_of_events (shape : link.supervisors = supervisor :: others)
    {fresh : List LinkEvent}
    (events : (link.perform action).events = link.events ++ fresh) :
    link.toldBy action = fresh.map (supervisor.serial, ·) := by
  simp [toldBy, shape, events]

theorem toldBy_of_silent (events : (link.perform action).events = link.events) :
    link.toldBy action = [] := by
  unfold toldBy
  split <;> simp [events]

theorem spoken_perform (sound : link.Sound) (spoken : link.Spoken blocks told)
    (action : Action) :
    ∃ further saying, (link.perform action).Spoken further saying ∧
      (link.perform action).events =
        link.events ++ (link.toldBy action).map (·.2) ∧
      spell (further ++ [saying]) =
        spell (blocks ++ [told]) ++ link.toldBy action := by
  have change := change_perform sound.orderly.supervised action
  generalize equality : link.perform action = next at change ⊢
  cases change with
  | request request =>
      have same := events_request request
      have nothing : link.toldBy action = [] :=
        toldBy_of_silent (by rw [equality, same])
      exact ⟨blocks, told, spoken_request sound.orderly spoken request,
        by simp [nothing, same], by simp [nothing]⟩
  | rest stimulus =>
      have nothing : link.toldBy (.react stimulus) = [] :=
        toldBy_of_silent (by rw [equality])
      exact ⟨blocks, told, spoken, by simp [nothing], by simp [nothing]⟩
  | @move supervisor others stimulus next shape move =>
      obtain ⟨further, saying, fresh, kept, events, spelled⟩ :=
        spoken_move sound spoken shape move
      have new : link.toldBy (.react stimulus) =
          fresh.map (supervisor.serial, ·) :=
        toldBy_of_events shape (by rw [equality, events])
      refine ⟨further, saying, kept, ?_, by rw [spelled, new]⟩
      simp [events, new, Function.comp_def]

theorem spoken_run (sound : link.Sound) (spoken : link.Spoken blocks told)
    (actions : List Action) :
    ∃ further saying, (link.run actions).Spoken further saying ∧
      (link.run actions).events =
        link.events ++ (link.tellings actions).map (·.2) ∧
      spell (further ++ [saying]) =
        spell (blocks ++ [told]) ++ link.tellings actions := by
  induction actions generalizing link blocks told with
  | nil => exact ⟨blocks, told, spoken, by simp [tellings], by simp [tellings]⟩
  | cons action actions induction =>
      obtain ⟨blocks, told, kept, events, spelled⟩ :=
        spoken_perform sound spoken action
      obtain ⟨further, saying, final, laterEvents, laterSpelled⟩ :=
        induction (sound_perform sound action) kept
      refine ⟨further, saying, final, ?_, ?_⟩
      · rw [run_cons, laterEvents, events]
        simp [tellings]
      · rw [laterSpelled, spelled, tellings, List.append_assoc]

/-! ## Whole runs -/

/-- A refused attempt is no event: only a supervisor that was to end anyway tells
that it has. -/
theorem toldBy_refused (shape : link.supervisors = supervisor :: others)
    (phase : supervisor.phase = .attempting) (error : LinkError) :
    link.toldBy (.react (.refused error)) =
      if supervisor.dismissed then [(supervisor.serial, .closed)] else [] := by
  cases dismissed : supervisor.dismissed with
  | true =>
      have ended : (link.perform (.react (.refused error))).events =
          link.events ++ [.closed] := by
        simp [perform, step, shape, stepOf, phase, dismissed, conclude, events,
          List.filterMap_cons, Report.event?]
      exact toldBy_of_events shape ended
  | false =>
      apply toldBy_of_silent
      simp [perform, step, shape, stepOf, phase, dismissed, refuse, retreat,
        proceed, events, List.filterMap_cons, Report.event?]

/-- The page is told one block after the other, each by one supervisor in the
order of their start.  Of those that have ended each has told a whole block, in
which only the last event says so; the block of the next may be cut short, and
nobody after it has told anything.  Refused attempts are not told: at most that
a supervisor has ended that was to end anyway. -/
theorem tellings_eq_spell {plan : LinkPlan} (interval : 0 < plan.keepAliveInterval)
    (actions : List Action) :
    let link := ({ plan } : Link).run actions
    let tellings := ({ plan } : Link).tellings actions
    tellings.map (·.2) = link.events ∧
      (∃ blocks told, tellings = spell (blocks ++ [told]) ∧
        link.endings = List.range blocks.length ∧
        (∀ block ∈ blocks, Block block ∧
          ∃ rest, block = rest ++ [.closed] ∧ .closed ∉ rest) ∧
        CutShort told ∧ (link.supervisors = [] → told = [])) ∧
      ∀ supervisor others error, link.supervisors = supervisor :: others →
        supervisor.phase = .attempting →
          link.toldBy (.react (.refused error)) =
            if supervisor.dismissed then [(supervisor.serial, .closed)] else [] := by
  intro link tellings
  have fresh : ({ plan } : Link).Spoken [] [] :=
    ⟨rfl, by simp, by simp, fun _ => rfl, by simp⟩
  have begun : ({ plan } : Link).Sound := sound_run interval []
  obtain ⟨blocks, told, spoken, events, spelled⟩ := spoken_run begun fresh actions
  have sound : link.Sound := sound_run interval actions
  refine ⟨events.symm, ⟨blocks, told, spelled.symm, ?_, ?_, ?_, spoken.silent⟩, ?_⟩
  · rw [endings_eq_range sound.accounted, spoken.ended]
  · intro block member
    have whole := spoken.complete block member
    exact ⟨whole, whole.closed⟩
  · cases shape : link.supervisors with
    | nil =>
        rw [spoken.silent shape]
        exact ⟨[.closed], by simp, .silent⟩
    | cons first others => exact cutShort_of_tells (spoken.first shape)
  · intro supervisor others error shape phase
    exact toldBy_refused shape phase error

/-- One supervisor ends before its turn, the next loses its connection and tries
again. -/
theorem tellings_eq_spell_retrying :
    let plan : LinkPlan := ⟨"ws://portal/S1", ⟨"S1"⟩, 1000, 60000, none⟩
    let actions : List Action :=
      [.connect, .close, .connect, .react .turn, .react .turn, .react .accepted,
        .react (.readFailed .connectionClosed), .elapse 1000, .react .delayOver]
    let link := ({ plan } : Link).run actions
    let tellings := ({ plan } : Link).tellings actions
    0 < plan.keepAliveInterval ∧
      tellings = [(0, .closed), (1, .connected), (1, .connectionLost)] ∧
      (∃ blocks told, tellings = spell (blocks ++ [told]) ∧
        link.endings = List.range blocks.length ∧ CutShort told) ∧
      ∃ supervisor others, link.supervisors = supervisor :: others ∧
        supervisor.phase = .attempting ∧ supervisor.dismissed = false ∧
        link.toldBy (.react (.refused .connectionClosed)) = [] := by
  intro plan actions link tellings
  have interval : 0 < plan.keepAliveInterval := by decide
  obtain ⟨_, ⟨blocks, told, spelled, ended, _, short, _⟩, refused⟩ :=
    tellings_eq_spell interval actions
  have shape : link.supervisors =
      [{ serial := 1, wasOpen := true, phase := .attempting }] := by decide
  exact ⟨interval, by decide, ⟨blocks, told, spelled, ended, short⟩,
    ⟨_, _, shape, rfl, rfl, refused _ _ _ shape rfl⟩⟩

end Link

end PageSession
