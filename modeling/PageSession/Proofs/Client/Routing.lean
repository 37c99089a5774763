import PageSession.Proofs.Client.Routes

/-!
# Routing follows the latest registration

A notification is given once to the handler that was registered last for its method, and
the call of a portlet once to what was registered last for its class and method.  Nothing
else runs: every program that a route leads to has come to its end, or what remains of it
is one of the duties, and no other program is.

The invariant says this of the deeds of a run and of the activity they led to, beside that
the tables of the client hold the latest registrations, and that a handler is looked up
right behind the taking of its notification.
-/

namespace PageSession.Client

/-! ## Lookups -/

/-- A handler is to be looked up at the head of a call only, where its notification has
just been taken. -/
def Prompt (duties : List Duty) : Prop :=
  lookups duties = [] ∨
    ∃ notification rest, duties = .invoke notification :: .finish notification :: rest ∧
      lookups rest = []

theorem lookups_append (duties others : List Duty) :
    lookups (duties ++ others) = lookups duties ++ lookups others :=
  List.filterMap_append

theorem lookups_cons (duty : Duty) (duties : List Duty) :
    lookups (duty :: duties) = duty.lookup?.toList ++ lookups duties := by
  rw [lookups, lookups, List.filterMap_cons]
  cases duty.lookup? <;> rfl

theorem programs_append (duties others : List Duty) :
    programs (duties ++ others) = programs duties ++ programs others :=
  List.filterMap_append

theorem programs_cons (duty : Duty) (duties : List Duty) :
    programs (duty :: duties) = duty.program?.toList ++ programs duties := by
  rw [programs, programs, List.filterMap_cons]
  cases duty.program? <;> rfl

namespace Prompt

variable {duty : Duty} {duties rest : List Duty}

theorem lookups_tail (prompt : Prompt (duty :: rest)) : lookups rest = [] := by
  rcases prompt with none | ⟨notification, others, same, none⟩
  · rw [lookups_cons] at none
    exact (List.append_eq_nil_iff.mp none).2
  · cases same
    rw [lookups_cons]
    exact none

theorem step {client : Client} {registrations : List Registration}
    (prompt : Prompt (duty :: rest)) (tabulates : Tabulates registrations client) :
    Prompt ((duty.step client).duties ++ rest) := by
  have none := prompt.lookups_tail
  by_cases taking : duty = .drain
  · subst taking
    rcases step_drain_cases client with stops | ⟨notification, others, takes⟩
    · rw [stops]
      exact .inl none
    · rw [takes]
      exact .inr ⟨notification, rest, rfl, none⟩
  · left
    rw [lookups_append, (brings_step tabulates duty).lookups, takings_step taking, none]
    rfl

/-- A call outside of the loop over the queue has no handler to look up. -/
theorem lookups_eq_nil (prompt : Prompt duties)
    (outside : ∀ duty ∈ duties, duty.drains = false) : lookups duties = [] := by
  rcases prompt with none | ⟨notification, rest, rfl, none⟩
  · exact none
  · have inside := outside (.finish notification) (by simp)
    contradiction

theorem lookups_flatten_eq_nil {calls : List (List Duty)}
    (prompt : ∀ duties ∈ calls, Prompt duties)
    (outside : ∀ duty ∈ calls.flatten, duty.drains = false) : lookups calls.flatten = [] := by
  rw [lookups, List.filterMap_flatten, List.flatten_eq_nil_iff, List.forall_mem_map]
  intro duties member
  exact (prompt duties member).lookups_eq_nil fun duty placed =>
    outside duty (List.mem_flatten_of_mem member placed)

end Prompt

/-! ## Programs -/

/-- What a program may have left to do. -/
inductive Remains (origin : Program) : Program → Prop
  | whole : Remains origin origin
  | looked {next : Snapshot → Program} (remains : Remains origin (.look next))
      (snapshot : Snapshot) : Remains origin (next snapshot)
  | performed {command : Command} {next : Program}
      (remains : Remains origin (.perform command next)) : Remains origin next

/-- Each of the programs that were begun has come to its end or goes on, once, and no other
one does. -/
def Accounted (begun ended current : List Program) : Prop :=
  ∃ past present : List (Program × Program),
    begun.Perm ((past ++ present).map Prod.fst) ∧ past.map Prod.snd = ended ∧
      present.map Prod.snd = current ∧ ∀ pair ∈ past ++ present, Remains pair.1 pair.2

namespace Accounted

variable {begun ended before after : List Program} {program : Program}

theorem nothing : Accounted [] [] [] :=
  ⟨[], [], .nil, rfl, rfl, nofun⟩

theorem begin (accounted : Accounted begun ended (before ++ after)) (added : List Program) :
    Accounted (begun ++ added) ended (before ++ added ++ after) := by
  obtain ⟨past, present, same, finished, goingOn, remains⟩ := accounted
  obtain ⟨first, last, rfl, rfl, rfl⟩ := List.map_eq_append_iff.mp goingOn
  let fresh := added.map fun program => (program, program)
  have placed : (past ++ (first ++ last) ++ fresh).Perm (past ++ (first ++ fresh ++ last)) := by
    simp only [List.append_assoc]
    exact (List.perm_append_comm.append_left first).append_left past
  refine ⟨past, first ++ fresh ++ last, ?_, finished, by simp [fresh, Function.comp_def], ?_⟩
  · have extended := same.append_right added
    refine extended.trans (.trans (.of_eq ?_) (placed.map Prod.fst))
    simp [fresh, Function.comp_def]
  · intro pair member
    rcases List.mem_append.mp (placed.mem_iff.mpr member) with old | new
    · exact remains pair old
    · obtain ⟨program, -, rfl⟩ := List.mem_map.mp new
      exact .whole

/-- A program that goes on was begun as another one, perhaps. -/
theorem exists_origin (accounted : Accounted begun ended (before ++ program :: after)) :
    ∃ (origin : Program) (past first last : List (Program × Program)),
      begun.Perm ((past ++ (first ++ (origin, program) :: last)).map Prod.fst) ∧
      past.map Prod.snd = ended ∧ first.map Prod.snd = before ∧ last.map Prod.snd = after ∧
      ∀ pair ∈ past ++ (first ++ (origin, program) :: last), Remains pair.1 pair.2 := by
  obtain ⟨past, present, same, finished, goingOn, remains⟩ := accounted
  obtain ⟨first, later, rfl, before, tail⟩ := List.map_eq_append_iff.mp goingOn
  obtain ⟨⟨origin, _⟩, last, rfl, rfl, after⟩ := List.map_eq_cons_iff.mp tail
  exact ⟨origin, past, first, last, same, finished, before, after, remains⟩

theorem advance (accounted : Accounted begun ended (before ++ program :: after))
    {next : Program} (continues : ∀ origin, Remains origin program → Remains origin next) :
    Accounted begun ended (before ++ next :: after) := by
  obtain ⟨origin, past, first, last, same, finished, rfl, rfl, remains⟩ :=
    accounted.exists_origin
  refine ⟨past, first ++ (origin, next) :: last, by simpa using same, finished, by simp, ?_⟩
  have goesOn := continues origin (remains (origin, program) (by simp))
  intro pair member
  simp only [List.mem_append, List.mem_cons] at member remains
  rcases member with old | old | rfl | old
  · exact remains pair (.inl old)
  · exact remains pair (.inr (.inl old))
  · exact goesOn
  · exact remains pair (.inr (.inr (.inr old)))

theorem finish (accounted : Accounted begun ended (before ++ program :: after)) :
    Accounted begun (ended ++ [program]) (before ++ after) := by
  obtain ⟨origin, past, first, last, same, rfl, rfl, rfl, remains⟩ := accounted.exists_origin
  have moved : (past ++ (first ++ (origin, program) :: last)).Perm
      (past ++ [(origin, program)] ++ (first ++ last)) := by
    rw [List.append_assoc]
    exact List.perm_middle.append_left past
  refine ⟨past ++ [(origin, program)], first ++ last, same.trans (moved.map Prod.fst), by simp,
    by simp, ?_⟩
  exact fun pair member => remains pair (moved.mem_iff.mpr member)

/-- Carrying out a duty begins the program that its route leads to, and goes on with the
program that the duty is about. -/
theorem step {registrations : List Registration} {client : Client} {duty : Duty}
    (tabulates : Tabulates registrations client)
    (accounted : Accounted begun ended (before ++ duty.program?.toList ++ after)) :
    Accounted
      (begun ++ (((Deed.perform duty).route? registrations).bind Route.program?).toList)
      (ended ++ (Deed.perform duty).ended?.toList)
      (before ++ programs (duty.step client).duties ++ after) := by
  rw [(brings_step tabulates duty).programs]
  cases duty with
  | run handled program =>
      have going : Accounted begun ended (before ++ program :: after) := by
        simpa [Duty.program?] using accounted
      cases program with
      | done outcome => simpa [Deed.route?, Deed.ended?, Deed.remainder?] using going.finish
      | look next =>
          have advanced := going.advance fun _ remains => remains.looked client.snapshot
          simpa [Deed.route?, Deed.ended?, Deed.remainder?] using advanced
      | perform command next =>
          have advanced := going.advance fun _ remains => remains.performed
          simpa [Deed.route?, Deed.ended?, Deed.remainder?] using advanced
  | _ =>
      simp only [Duty.program?, Option.toList_none, List.append_nil] at accounted
      simpa [Deed.ended?, Deed.remainder?] using accounted.begin _

end Accounted

/-! ## Runs -/

/-- Where deeds lead, each by what was registered before it. -/
def routesFrom (registrations : List Registration) : List Deed → List Route
  | [] => []
  | deed :: deeds =>
      (deed.route? registrations).toList ++ routesFrom (registrations ++ deed.registers) deeds

/-- Where the deeds of a run lead. -/
def routes (deeds : List Deed) : List Route :=
  routesFrom (registered []) deeds

/-- The notifications whose handlers were looked up. -/
def lookedUp (deeds : List Deed) : List Notification :=
  deeds.filterMap Deed.lookup?

/-- The programs that came to their ends. -/
def ended (deeds : List Deed) : List Program :=
  deeds.filterMap Deed.ended?

section Deeds

variable (deeds : List Deed) (deed : Deed)

theorem registered_append_singleton :
    registered (deeds ++ [deed]) = registered deeds ++ deed.registers := by
  simp [registered]

theorem routes_append_singleton :
    routes (deeds ++ [deed]) = routes deeds ++ (deed.route? (registered deeds)).toList := by
  have grown : ∀ registrations, routesFrom registrations (deeds ++ [deed]) =
      routesFrom registrations deeds ++
        (deed.route? (registrations ++ deeds.flatMap Deed.registers)).toList := by
    induction deeds with
    | nil => simp [routesFrom]
    | cons first deeds induction => simp [routesFrom, induction]
  have all : registered [] ++ deeds.flatMap Deed.registers = registered deeds := by
    simp [registered]
  rw [routes, grown, all, routes]

theorem filterMap_routes_append_singleton {β : Type} (select : Route → Option β) :
    (routes (deeds ++ [deed])).filterMap select =
      (routes deeds).filterMap select ++ ((deed.route? (registered deeds)).bind select).toList := by
  rw [routes_append_singleton, List.filterMap_append]
  cases deed.route? (registered deeds) with
  | none => rfl
  | some route => cases selected : select route <;> simp [selected]

theorem lookedUp_append_singleton :
    lookedUp (deeds ++ [deed]) = lookedUp deeds ++ deed.lookup?.toList := by
  rw [lookedUp, lookedUp, List.filterMap_append]
  cases looksUp : deed.lookup? <;> simp [looksUp]

theorem ended_append_singleton :
    ended (deeds ++ [deed]) = ended deeds ++ deed.ended?.toList := by
  rw [ended, ended, List.filterMap_append]
  cases ends : deed.ended? <;> simp [ends]

end Deeds

/-- What a client has of the deeds that led to it. -/
structure Reflects (deeds : List Deed) (client : Client) : Prop where
  tabulates : Tabulates (registered deeds) client
  answered : client.answered = (routes deeds).filterMap Route.answer?
  layout : client.layout = ((routes deeds).filterMap Route.layout?).getLast?

theorem Reflects.extend {deeds : List Deed} {deed : Deed} {client : Client} {effect : Effect}
    {remainder : Option Program} (reflects : Reflects deeds client)
    (brings : Brings client effect deed.registers remainder (deed.route? (registered deeds))) :
    Reflects (deeds ++ [deed]) effect.client where
  tabulates := by
    rw [registered_append_singleton]
    exact brings.tables _ reflects.tabulates
  answered := by
    rw [filterMap_routes_append_singleton, brings.answered, reflects.answered]
  layout := by
    rw [filterMap_routes_append_singleton, brings.layout, reflects.layout]
    cases (deed.route? (registered deeds)).bind Route.layout? <;> simp

/-- What holds of an activity by the deeds that led to it. -/
structure Routed (deeds : List Deed) (activity : Activity) : Prop where
  reflects : Reflects deeds activity.client
  prompt : ∀ duties ∈ activity.calls, Prompt duties
  successive : lookedUp deeds ++ lookups activity.duties = takings activity.history
  accounted : Accounted ((routes deeds).filterMap Route.program?) (ended deeds)
    (programs activity.duties)

theorem routed_startStandard (plan : LinkPlan) (host : ScriptHost) :
    Routed [] { client := startStandard plan host } where
  reflects := ⟨tabulates_startStandard plan host, rfl, rfl⟩
  prompt := nofun
  successive := rfl
  accounted := .nothing

namespace Routed

variable {deeds : List Deed} {activity : Activity}

theorem begin (routed : Routed deeds activity) (call : Call) :
    Routed (deeds ++ [.begin call])
      { client := (call.start activity.client).client
        calls := activity.calls ++ [(call.start activity.client).duties]
        history := activity.history ++ (call.start activity.client).moments } := by
  have brings := brings_start routed.reflects.tabulates call
  have takesNone := (mild_start activity.client call).takesNone
  have quiet := brings.lookups.trans takesNone
  exact
    { reflects := routed.reflects.extend brings
      prompt := by
        intro duties member
        rcases List.mem_append.mp member with old | new
        · exact routed.prompt duties old
        · exact .inl (List.mem_singleton.mp new ▸ quiet)
      successive := by
        rw [lookedUp_append_singleton, takings_append, takesNone, ← routed.successive]
        simp [Activity.duties, lookups_append, quiet, Deed.lookup?]
      accounted := by
        have before := routed.accounted
        rw [← List.append_nil (programs activity.duties)] at before
        rw [filterMap_routes_append_singleton, ended_append_singleton]
        have begun := before.begin
          (((Deed.begin call).route? (registered deeds)).bind Route.program?).toList
        simpa [Activity.duties, programs_append, brings.programs, Deed.ended?] using begun }

section Proceed

variable {before after : List (List Duty)} {duty : Duty} {rest : List Duty}

/-- While the next notification may be taken, or its handler is looked up, no other
handler is to be looked up. -/
theorem lookups_others (routed : Routed deeds activity) (sound : activity.Sound)
    (chosen : activity.calls = before ++ (duty :: rest) :: after)
    (inside : duty = .drain ∨ duty.lookup? ≠ none) :
    lookups before.flatten = [] ∧ lookups after.flatten = [] := by
  have prompt : ∀ duties ∈ before ++ (duty :: rest) :: after, Prompt duties :=
    chosen ▸ routed.prompt
  -- The chosen call is inside the loop over the queue, at one of its duties, so that every
  -- other call is outside.
  have loop : ∃ first inner last, duty :: rest = first ++ inner :: last ∧
      inner.drains = true := by
    rcases inside with rfl | looksUp
    · exact ⟨[], _, rest, rfl, rfl⟩
    · rcases prompt (duty :: rest) (by simp) with none | ⟨notification, others, same, -⟩
      · rw [lookups_cons, List.append_eq_nil_iff, Option.toList_eq_nil_iff] at none
        exact absurd none.1 looksUp
      · exact ⟨[.invoke notification], .finish notification, others, same, rfl⟩
  obtain ⟨first, inner, last, same, drains⟩ := loop
  have duties : activity.duties =
      (before.flatten ++ first) ++ inner :: (last ++ after.flatten) := by
    simp [Activity.duties, chosen, same]
  unfold Activity.Sound at sound
  rw [duties] at sound
  obtain ⟨-, outsideBefore, outsideAfter⟩ := sound.alone drains
  constructor
  · apply Prompt.lookups_flatten_eq_nil fun duties member => prompt duties (by simp [member])
    exact fun duty member => outsideBefore duty (List.mem_append_left _ member)
  · apply Prompt.lookups_flatten_eq_nil fun duties member => prompt duties (by simp [member])
    exact fun duty member => outsideAfter duty (List.mem_append_right _ member)

theorem proceed (routed : Routed deeds activity) (sound : activity.Sound)
    (chosen : activity.calls = before ++ (duty :: rest) :: after) :
    Routed (deeds ++ [.perform duty])
      { client := (duty.step activity.client).client
        calls := before ++ ((duty.step activity.client).duties ++ rest) :: after
        history := activity.history ++ (duty.step activity.client).moments } := by
  have tabulates := routed.reflects.tabulates
  have brings := brings_step tabulates duty
  have prompt : Prompt (duty :: rest) := routed.prompt _ (by simp [chosen])
  have duties : activity.duties = before.flatten ++ duty :: (rest ++ after.flatten) := by
    simp [Activity.duties, chosen]
  exact
    { reflects := routed.reflects.extend brings
      prompt := by
        intro duties member
        rcases List.mem_append.mp member with old | placed
        · exact routed.prompt duties (by simp [chosen, old])
        · rcases List.mem_cons.mp placed with rfl | old
          · exact prompt.step tabulates
          · exact routed.prompt duties (by simp [chosen, old])
      successive := by
        rw [lookedUp_append_singleton, takings_append, ← routed.successive, duties]
        simp only [Activity.duties, List.flatten_append, List.flatten_cons, lookups_append,
          lookups_cons, brings.lookups, prompt.lookups_tail, List.append_nil, List.nil_append]
        -- A lookup moves from the duties to the deeds, or a taking is followed by its
        -- lookup: the order is kept as no other call has a lookup.
        by_cases inside : duty = .drain ∨ duty.lookup? ≠ none
        · obtain ⟨noneBefore, noneAfter⟩ := routed.lookups_others sound chosen inside
          simp [noneBefore, noneAfter, Deed.lookup?]
        · obtain ⟨other, quiet⟩ := not_or.mp inside
          simp [takings_step other, Classical.not_not.mp quiet, Deed.lookup?]
      accounted := by
        have before := routed.accounted
        rw [duties, programs_append, programs_cons, ← List.append_assoc] at before
        rw [filterMap_routes_append_singleton, ended_append_singleton]
        simpa [Activity.duties, programs_append] using before.step tabulates }

end Proceed

end Routed

namespace Chronicle

variable {single : Bool} {plan : LinkPlan} {host : ScriptHost} {deeds : List Deed}
  {activity : Activity}

theorem routed (told : Chronicle single (startStandard plan host) deeds activity) :
    Routed deeds activity := by
  induction told with
  | start => exact routed_startStandard plan host
  | does told _ does induction =>
      cases does with
      | begin call => exact induction.begin call
      | proceed chosen => exact induction.proceed (told.sound rfl) chosen

/-- Where one call begins after the other, a handler that is to be looked up is the
handler of the notification that was taken just now. -/
theorem eq_append_drain (told : Chronicle true (startStandard plan host) deeds activity)
    (waiting : lookups activity.duties ≠ []) :
    ∃ earlier, deeds = earlier ++ [.perform .drain] := by
  cases told with
  | start => exact absurd rfl waiting
  | does told free does =>
      have routed := told.routed
      have tabulates := routed.reflects.tabulates
      cases does with
      | begin call =>
          have ended := free rfl call rfl
          have quiet := (brings_start tabulates call).lookups.trans (mild_start _ call).takesNone
          rw [Activity.duties] at ended waiting
          simp [ended, quiet] at waiting
      | @proceed before after duty rest chosen =>
          by_cases taking : duty = .drain
          · exact ⟨_, by rw [taking]⟩
          · have quiet := (brings_step tabulates duty).lookups.trans (takings_step taking)
            have prompt : Prompt (duty :: rest) := routed.prompt _ (by simp [chosen])
            obtain ⟨noneBefore, noneAfter⟩ := told.others_eq_nil chosen
            simp [Activity.duties, noneBefore, noneAfter, lookups_append, quiet,
              prompt.lookups_tail] at waiting

theorem exists_drain_of_invoke (told : Chronicle true (startStandard plan host) deeds activity)
    {before after : List Deed} {notification : Notification}
    (split : deeds = before ++ .perform (.invoke notification) :: after) :
    ∃ earlier, before = earlier ++ [.perform .drain] := by
  induction told generalizing after with
  | start => simp at split
  | @does earlier deed _ _ told _ does induction =>
      rcases List.eq_nil_or_concat after with rfl | ⟨others, last, rfl⟩
      · obtain ⟨rfl, same⟩ := List.append_inj' split rfl
        cases same
        cases does with
        | proceed chosen =>
            apply told.eq_append_drain
            simp [Activity.duties, chosen, lookups_append, lookups_cons, Duty.lookup?]
      · have regrouped : earlier ++ [deed] =
            (before ++ .perform (.invoke notification) :: others) ++ [last] := by
          simpa using split
        obtain ⟨same, -⟩ := List.append_inj' regrouped rfl
        exact induction same

end Chronicle

/-- However calls interleave, and whatever programs register while they run: the handlers
of the notifications that were taken are looked up once each, in order, and where one call
begins after the other, each directly behind the taking.  A deed that looks somebody up
does what the latest registrations prescribe; the programs, calls of portlets, reloads and
layouts of the run are those that its deeds led to, and no others.  What is found under a
key depends on nothing but the registrations under this key.  Whatever the functions of the
client do, one call after the other, is such a run. -/
theorem routing_follows_registrations {single : Bool} {plan : LinkPlan} {host : ScriptHost}
    {deeds : List Deed} {activity : Activity}
    (told : Chronicle single (startStandard plan host) deeds activity) :
    lookedUp deeds ++ lookups activity.duties = takings activity.history ∧
    (single = true → ∀ before notification after,
      deeds = before ++ .perform (.invoke notification) :: after →
        ∃ earlier, before = earlier ++ [.perform .drain]) ∧
    (∀ (deed : Deed) (route : Route), deed.route? (registered deeds) = some route →
      deed.effect activity.client = route.effect activity.client deed.handled?) ∧
    (Accounted ((routes deeds).filterMap Route.program?) (ended deeds)
        (programs activity.duties) ∧
      activity.client.answered = (routes deeds).filterMap Route.answer? ∧
      activity.client.layout = ((routes deeds).filterMap Route.layout?).getLast?) ∧
    (∀ otherPlan otherHost others other,
      Chronicle false (startStandard otherPlan otherHost) others other →
        (∀ method,
          (registered deeds).filterMap (·.handlerFor? method) =
              (registered others).filterMap (·.handlerFor? method) →
            activity.client.handlers.find? method = other.client.handlers.find? method) ∧
        ∀ portletClass method,
          (registered deeds).filterMap (·.portletFor? portletClass method) =
              (registered others).filterMap (·.portletFor? portletClass method) →
            activity.client.portlets.find? (portletClass, method) =
              other.client.portlets.find? (portletClass, method)) ∧
    (activity.duties = [] → ∀ calls : List Call, ∃ more other,
      Chronicle single (startStandard plan host) (deeds ++ more) other ∧ other.duties = [] ∧
        other.client = calls.foldl Call.result activity.client) := by
  obtain ⟨⟨tabulates, answered, layout⟩, -, successive, accounted⟩ := told.routed
  refine ⟨successive, ?behind, ?routes, ⟨accounted, answered, layout⟩, ?keys, ?calls⟩
  case behind =>
    rintro rfl before notification after split
    exact told.exists_drain_of_invoke split
  case routes =>
    intro deed route routed
    exact effect_eq_of_route? tabulates routed
  case keys =>
    intro otherPlan otherHost others other otherTold
    obtain ⟨⟨otherTabulates, -, -⟩, -, -, -⟩ := otherTold.routed
    constructor
    · intro method same
      rw [tabulates.handlers, otherTabulates.handlers, latestHandler?, latestHandler?, same]
    · intro portletClass method same
      rw [tabulates.portlets, otherTabulates.portlets, latestPortlet?, latestPortlet?, same]
  case calls =>
    intro ended
    exact told.calls (Sound.idle (told.sound rfl) (by simp [ended])) ended

/-- A handler replaces itself while it runs, so that only the first of two notifications
is given to it; and a call goes to the class it names, though another class registered a
method of that name later. -/
theorem routing_follows_registrations_replaced :
    let plan : LinkPlan := ⟨"ws://portal/S1", ⟨"S1"⟩, 1000, 60000, none⟩
    let client := startStandard plan { execute := fun _ _ => .ok () }
    let say (text : String) : Program := .perform (.note (.string text)) (.done .success)
    let news := (Notification.carrying "news" []).frame
    let tick := Notification.carrying Method.invokePortletMethod
      [.string "Clock", .string "p1", .string "tick", .array [.string "noon"]]
    let calls : List Call :=
      [.handle "news" fun _ => .perform (.handle "news" fun _ => say "new") (say "old"),
        .handlePortlet "Clock" "tick" fun portlet _ => say portlet.text,
        .handlePortlet "Chart" "tick" fun _ _ => say "chart",
        .receive news, .receive news, .receive tick.frame]
    ∃ deeds activity, Chronicle true client deeds activity ∧
      activity.client = calls.foldl Call.result client ∧
      (activity.client.journal.filterMap fun
        | .noted (.string text) => some text
        | _ => none) = ["old", "new", "p1"] ∧
      lookedUp deeds = takings activity.history ∧
      Accounted ((routes deeds).filterMap Route.program?) (ended deeds) [] ∧
      (((routes deeds).filterMap Route.answer?).map fun
        | .called call => (call.portletClass, call.portlet.text, call.method, call.params.length)
        | _ => ("", "", "", 0)) = [("Clock", "p1", "tick", 1)] := by
  intro plan client say news tick calls
  have started : Chronicle true client [] { client } := .start
  obtain ⟨-, -, -, -, -, called⟩ := routing_follows_registrations started
  obtain ⟨deeds, activity, told, finished, same⟩ := called rfl calls
  rw [List.nil_append] at told
  obtain ⟨once, -, -, ⟨accounted, answered, -⟩, -, -⟩ := routing_follows_registrations told
  have looked : lookups activity.duties = [] := by rw [finished]; rfl
  have going : programs activity.duties = [] := by rw [finished]; rfl
  rw [looked, List.append_nil] at once
  rw [going] at accounted
  refine ⟨deeds, activity, told, same, ?_, once, accounted, ?_⟩
  · rw [same]
    decide +kernel
  · rw [← answered, same]
    decide +kernel

end PageSession.Client
