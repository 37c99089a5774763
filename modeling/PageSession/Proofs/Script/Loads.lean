import PageSession.Proofs.Script.Starts

/-!
# A URI is loaded at most once at a time, and not again after a success

The load of a URI is underway from the moment at which a script asks for it to
the next end of a load of this URI.  A script that starts asks for the load of its
URI exactly if none is underway and none was a success.  When a load succeeds, what
is provided is what the scripts provide that started while it was underway, the
one that asked for it included.
-/

namespace PageSession.Loader

/-- The load of a URI has ended in the course of some moments. -/
def Ended (moments : List Moment) (uri : String) : Prop :=
  ∃ outcome, .finish uri outcome ∈ moments

/-- The scripts of a URI that start in the course of some moments, in order. -/
def startsOf (uri : String) (moments : List Moment) : List ScriptDescriptor :=
  (starts moments).filter (·.source = .uri uri)

/-- A load of a URI began and has not ended; the scripts of this URI that started
since then are given, the one that asked for it first. -/
def Underway (past : List Moment) (uri : String) (scripts : List ScriptDescriptor) : Prop :=
  ∃ before first after, past = before ++ first :: after ∧
    first.effect? = some (.fetch uri) ∧ ¬ Ended after uri ∧
    scripts = startsOf uri (first :: after)

/-- What holds of a script when it starts: no URI is loading twice, none that is
loading was loaded, and it asks for a load of its URI exactly if none is underway
and none was a success.  A load that ends was underway. -/
def Moment.Sparing (past : List Moment) : Moment → Prop
  | .start loader script =>
      loader.uris.Nodup ∧ loader.uris.Disjoint loader.loaded ∧
        ∀ uri, (Moment.start loader script).effect? = some (.fetch uri) ↔
          script.source = .uri uri ∧ (∀ scripts, ¬ Underway past uri scripts) ∧
            .finish uri (.ok ()) ∉ past
  | .finish uri _ => ∃ scripts, Underway past uri scripts

variable {host : ScriptHost} {past : List Moment}
  {loader other : Loader} {script : ScriptDescriptor} {uri load : String}
  {scripts : List ScriptDescriptor} {moment : Moment}

/-- The load of a URI was a success: what it promised is provided. -/
def merge (loader : Loader) (uri : String) : List ScriptDescriptor × Loader :=
  ((loader.unload uri).recordLoaded uri).provide (loader.promised uri)

/-! ## One moment more -/

theorem startsOf_append (uri : String) (before after : List Moment) :
    startsOf uri (before ++ after) = startsOf uri before ++ startsOf uri after := by
  simp [startsOf, starts]

theorem startsOf_start (source : script.source = .uri load) (loader : Loader) (uri : String) :
    startsOf uri [.start loader script] = if load = uri then [script] else [] := by
  by_cases same : load = uri <;> simp [startsOf, starts, Moment.script?, source, same]

theorem startsOf_finish (uri load : String) (outcome : Except ScriptError Unit) :
    startsOf uri [.finish load outcome] = [] := rfl

theorem not_ended_start (loader : Loader) (script : ScriptDescriptor) (uri : String) :
    ¬ Ended [.start loader script] uri := by
  rintro ⟨outcome, member⟩
  cases List.mem_singleton.mp member

/-- A load is underway after one moment more if it begins then, or if it was
underway and does not end then. -/
theorem underway_concat :
    Underway (past ++ [moment]) uri scripts ↔
      (moment.effect? = some (.fetch uri) ∧ scripts = startsOf uri [moment]) ∨
        ∃ earlier, Underway past uri earlier ∧ ¬ Ended [moment] uri ∧
          scripts = earlier ++ startsOf uri [moment] := by
  constructor
  · rintro ⟨before, first, after, split, asks, lasting, rfl⟩
    rcases List.eq_nil_or_concat after with rfl | ⟨between, last, rfl⟩
    · obtain ⟨_, same⟩ := List.append_inj' split rfl
      obtain rfl := List.singleton_inj.mp same
      exact .inl ⟨asks, rfl⟩
    · rw [List.concat_eq_append] at split lasting ⊢
      rw [← List.cons_append, ← List.append_assoc] at split
      obtain ⟨rfl, same⟩ := List.append_inj' split rfl
      obtain rfl := List.singleton_inj.mp same
      refine .inr ⟨_, ⟨before, first, between, rfl, asks, ?_, rfl⟩, ?_, ?_⟩
      · rintro ⟨outcome, member⟩
        exact lasting ⟨outcome, List.mem_append_left _ member⟩
      · rintro ⟨outcome, member⟩
        exact lasting ⟨outcome, List.mem_append_right _ member⟩
      · rw [← startsOf_append, List.cons_append]
  · rintro (⟨asks, rfl⟩ | ⟨_, ⟨before, first, after, rfl, asks, lasting, rfl⟩, on, rfl⟩)
    · refine ⟨past, moment, [], rfl, asks, ?_, rfl⟩
      rintro ⟨outcome, member⟩
      cases member
    · refine ⟨before, first, after ++ [moment], by simp, asks, ?_, ?_⟩
      · rintro ⟨outcome, member⟩
        rcases List.mem_append.mp member with old | new
        · exact lasting ⟨outcome, old⟩
        · exact on ⟨outcome, new⟩
      · rw [← startsOf_append, List.cons_append]

/-! ## What a step keeps -/

/-- What the loads going on and those that were a success have to do with the
moments before. -/
structure Sparing (past : List Moment) (loader : Loader) : Prop where
  single : loader.uris.Nodup
  apart : loader.uris.Disjoint loader.loaded
  underway : ∀ uri, uri ∈ loader.uris ↔ ∃ scripts, Underway past uri scripts
  loaded : ∀ uri, uri ∈ loader.loaded ↔ .finish uri (.ok ()) ∈ past
  promised : ∀ uri scripts, Underway past uri scripts →
    ∀ name, name ∈ loader.promised uri ↔ ∃ script ∈ scripts, name ∈ script.provides
  moments : ∀ before moment after, past = before ++ moment :: after → moment.Sparing before

theorem sparing_start : Sparing [] {} where
  single := by simp [uris]
  apart := by simp [uris]
  underway := by simp [uris, Underway]
  loaded := by simp
  promised := by simp [Underway]
  moments := by simp

namespace Sparing

theorem congr (sparing : Sparing past loader) (loading : other.loading = loader.loading)
    (loaded : other.loaded = loader.loaded) : Sparing past other := by
  have sameUris : other.uris = loader.uris := by rw [uris, uris, loading]
  have samePromised : other.promised = loader.promised := by
    funext uri
    rw [Loader.promised, Loader.promised, loading]
  exact
    { single := sameUris ▸ sparing.single
      apart := by
        rw [sameUris, loaded]
        exact sparing.apart
      underway := sameUris ▸ sparing.underway
      loaded := loaded ▸ sparing.loaded
      promised := samePromised ▸ sparing.promised
      moments := sparing.moments }

/-- A script asks for the load of its URI if this is neither loading nor loaded. -/
theorem asks_iff (sparing : Sparing past loader) (script : ScriptDescriptor) :
    (Moment.start loader script).Sparing past := by
  refine ⟨sparing.single, sparing.apart, fun uri => ?_⟩
  rw [← not_exists, ← sparing.underway, ← sparing.loaded]
  cases source : script.source with
  | inline text => simp [Moment.effect?, source]
  | uri own =>
      by_cases known : own ∈ loader.uris ∨ own ∈ loader.loaded
      · simp only [Moment.effect?, source, known, if_true]
        constructor
        · rintro ⟨⟩
        · rintro ⟨same, fresh⟩
          cases same
          exact absurd known (not_or.mpr fresh)
      · simp only [Moment.effect?, source, known, if_false]
        constructor
        · rintro ⟨⟩
          exact ⟨rfl, not_or.mp known⟩
        · rintro ⟨same, _⟩
          cases same
          rfl

/-- A script starts that asks for no load; what its URI promises may grow by what
it provides. -/
theorem begin (sparing : Sparing past loader) (uris : other.uris = loader.uris)
    (loaded : other.loaded = loader.loaded)
    (silent : ∀ uri, (Moment.start loader script).effect? ≠ some (.fetch uri))
    (promised : ∀ uri ∈ loader.uris, ∀ name, name ∈ other.promised uri ↔
      name ∈ loader.promised uri ∨ script.source = .uri uri ∧ name ∈ script.provides) :
    Sparing (past ++ [.start loader script]) other := by
  have goesOn : ∀ uri scripts, Underway (past ++ [.start loader script]) uri scripts ↔
      ∃ earlier, Underway past uri earlier ∧
        scripts = earlier ++ startsOf uri [.start loader script] := by
    intro uri scripts
    rw [underway_concat]
    simp [silent, not_ended_start]
  exact
    { single := uris ▸ sparing.single
      apart := by
        rw [uris, loaded]
        exact sparing.apart
      underway := by
        intro uri
        rw [uris, sparing.underway]
        simp [goesOn]
      loaded := by
        intro uri
        rw [loaded, sparing.loaded]
        simp
      promised := by
        intro uri scripts load name
        obtain ⟨earlier, before, rfl⟩ := (goesOn uri scripts).mp load
        rw [promised uri ((sparing.underway uri).mpr ⟨earlier, before⟩),
          sparing.promised uri earlier before]
        by_cases own : script.source = .uri uri
        · simp [startsOf, starts, Moment.script?, own, or_and_right, exists_or]
        · simp [startsOf, starts, Moment.script?, own]
      moments := forall_split_concat sparing.moments (sparing.asks_iff script) }

/-- A script starts that asks for the load of its URI. -/
theorem fetch (sparing : Sparing past loader) (source : script.source = .uri uri)
    (absent : uri ∉ loader.uris) (unknown : uri ∉ loader.loaded) :
    Sparing (past ++ [.start loader script]) (loader.fetch uri script.provides) := by
  have asks : (Moment.start loader script).effect? = some (.fetch uri) := by
    simp [Moment.effect?, source, absent, unknown]
  have idle : ∀ scripts, ¬ Underway past uri scripts :=
    fun scripts underway => absent ((sparing.underway uri).mpr ⟨scripts, underway⟩)
  have goesOn : ∀ load scripts, Underway (past ++ [.start loader script]) load scripts ↔
      (load = uri ∧ scripts = [script]) ∨ (load ≠ uri ∧ Underway past load scripts) := by
    intro load scripts
    rw [underway_concat]
    simp only [asks, not_ended_start, startsOf_start source]
    by_cases same : load = uri
    · subst same
      simp [idle]
    · simp [same, Ne.symm same]
  exact
    { single := by
        rw [uris_fetch, ← List.concat_eq_append]
        exact sparing.single.concat absent
      apart := by
        rw [uris_fetch, loaded_fetch, List.disjoint_append_left, List.singleton_disjoint]
        exact ⟨sparing.apart, unknown⟩
      underway := by
        intro load
        rw [uris_fetch, List.mem_append, List.mem_singleton, sparing.underway]
        simp only [goesOn]
        by_cases same : load = uri
        · simp [same]
        · simp [same]
      loaded := by
        intro load
        rw [loaded_fetch, sparing.loaded]
        simp
      promised := by
        intro load scripts underway name
        rcases (goesOn load scripts).mp underway with ⟨rfl, rfl⟩ | ⟨different, before⟩
        · simp [promised_fetch_self absent]
        · rw [promised_fetch_of_ne different, sparing.promised load scripts before]
      moments := forall_split_concat sparing.moments (sparing.asks_iff script) }

theorem start (host : ScriptHost) (sparing : Sparing past loader)
    (script : ScriptDescriptor) :
    Sparing (past ++ [.start loader script]) (loader.start host script).2 := by
  refine @start_cases host loader script
    (fun started => Sparing (past ++ [.start loader script]) started.2)
    ?joins ?knows ?fetches ?executes ?fails
  case joins =>
    intro uri source present
    refine sparing.begin (uris_join loader uri _) rfl ?_ ?_
    · simp [Moment.effect?, source, present]
    · intro other loading name
      by_cases same : other = uri
      · subst same
        rw [promised_join_self present, Names.mem_union]
        simp [source]
      · rw [promised_join_of_ne same]
        simp [source, Ne.symm same]
  -- What a load promises is left alone when its URI is not the one that starts.
  case knows =>
    intro uri source absent known
    refine congr (sparing.begin rfl rfl ?_ ?_ : Sparing _ loader) rfl rfl
    · simp [Moment.effect?, source, known]
    · rintro other loading name
      have different : uri ≠ other := fun same => absent (same ▸ loading)
      simp [source, different]
  case fetches => exact fun uri source absent unknown => sparing.fetch source absent unknown
  case executes =>
    intro text source _
    refine congr (sparing.begin rfl rfl ?_ ?_ : Sparing _ loader) rfl rfl
    · simp [Moment.effect?, source]
    · simp [source]
  case fails =>
    intro text error source _
    refine congr (sparing.begin rfl rfl ?_ ?_ : Sparing _ loader) rfl rfl
    · simp [Moment.effect?, source]
    · simp [source]

theorem pass (host : ScriptHost) (sparing : Sparing past loader)
    (ready : List ScriptDescriptor) :
    Sparing (past ++ loader.pass host ready) (loader.run host ready) := by
  fun_induction Loader.run host loader ready generalizing past with
  | case1 loader =>
      rw [Loader.pass, List.append_nil]
      exact sparing
  | case2 loader script rest started =>
      rename_i induction
      have later := induction (sparing.start host script)
      rw [Loader.pass]
      simpa using later

/-- The load of a URI ends. -/
theorem finish (sparing : Sparing past loader) (goesOn : uri ∈ loader.uris)
    {outcome : Except ScriptError Unit} (uris : other.uris = loader.uris.filter (· != uri))
    (loaded : ∀ load, load ∈ other.loaded ↔
      load ∈ loader.loaded ∨ load = uri ∧ outcome = .ok ())
    (promised : ∀ load, load ≠ uri → other.promised load = loader.promised load) :
    Sparing (past ++ [.finish uri outcome]) other := by
  have ended : ∀ load, Ended [.finish uri outcome] load ↔ load = uri := by
    intro load
    simp [Ended]
  have lasting : ∀ load scripts, Underway (past ++ [.finish uri outcome]) load scripts ↔
      load ≠ uri ∧ Underway past load scripts := by
    intro load scripts
    rw [underway_concat]
    simp [Moment.effect?, ended, startsOf_finish, and_comm]
  exact
    { single := uris ▸ sparing.single.filter _
      apart := by
        intro load loading known
        rw [uris, List.mem_filter] at loading
        rcases (loaded load).mp known with old | ⟨rfl, _⟩
        · exact sparing.apart loading.1 old
        · simp at loading
      underway := by
        intro load
        rw [uris, List.mem_filter, sparing.underway]
        simp [lasting, and_comm]
      loaded := by
        intro load
        rw [loaded, sparing.loaded]
        simp [eq_comm]
      promised := by
        intro load scripts underway
        obtain ⟨different, before⟩ := (lasting load scripts).mp underway
        rw [promised load different]
        exact sparing.promised load scripts before
      moments := forall_split_concat sparing.moments ((sparing.underway uri).mp goesOn) }

theorem submit (sparing : Sparing past loader) (resources : PageResources) :
    Sparing (past ++ loader.moments host (.submit resources))
      (loader.submit host resources) := by
  have styled := (restyled_applyStyles loader resources).sameScripts
  have enrolled : Sparing past ((loader.applyStyles resources).enroll resources.scripts).2 := by
    apply @enroll_induction (fun _ _ other => Sparing past other)
      _ _ [] [] _ (sparing.congr styled.loading styled.loaded)
    · exact fun _ _ _ _ kept => kept.congr rfl rfl
    · exact fun _ _ _ _ kept => kept.congr rfl rfl
  exact (enrolled.pass host _).congr (loading_settle _) (loaded_settle _)

theorem complete (sparing : Sparing past loader) (goesOn : uri ∈ loader.uris)
    (outcome : Except ScriptError Unit) :
    Sparing (past ++ loader.moments host (.complete uri outcome))
      (loader.complete host uri outcome) := by
  cases outcome with
  | ok _ =>
      have ended : Sparing (past ++ [.finish uri (.ok ())])
          ((loader.unload uri).recordLoaded uri) := by
        refine sparing.finish goesOn ?_ ?_ ?_
        · rw [uris, loading_recordLoaded, ← uris, uris_unload]
        · intro load
          rw [mem_loaded_recordLoaded, or_comm]
          simp [unload]
        · intro load different
          rw [Loader.promised, loading_recordLoaded, ← Loader.promised,
            promised_unload_of_ne different]
      have merged : Sparing (past ++ [.finish uri (.ok ())]) (loader.merge uri).2 :=
        ended.congr (loading_provide _ _) (loaded_provide _ _)
      have passed := merged.pass host (loader.merge uri).1
      rw [List.append_assoc] at passed
      exact passed.congr (loading_settle _) (loaded_settle _)
  | error error =>
      rw [complete_error]
      have ended : Sparing (past ++ [.finish uri (.error error)]) (loader.unload uri) := by
        refine sparing.finish goesOn (uris_unload loader uri) ?_ ?_
        · simp [unload]
        · exact fun load different => promised_unload_of_ne different
      exact ended.congr (loading_settle _) (loaded_settle _)

end Sparing

/-! ## Whole runs -/

theorem sparing_run {actions : List Action} (reached : Run host actions loader) :
    Sparing (history host {} actions) loader := by
  induction reached with
  | start => exact sparing_start
  | submit resources before induction =>
      rw [history_append, ← before.eq_foldl]
      simpa [history] using induction.submit resources
  | complete outcome before goesOn induction =>
      rw [history_append, ← before.eq_foldl]
      simpa [history] using induction.complete goesOn outcome

theorem merge_resolver (loader : Loader) (uri : String) :
    (loader.merge uri).2.resolver = (loader.resolver.provide (loader.promised uri)).2 := by
  rw [merge, resolver_provide, resolver_recordLoaded]
  rfl

/-- The page is asked to load a URI when a script starts, and each start is that of
another script that was accepted.  It is asked exactly if no load of this URI is
underway and none was a success.  Whatever load ends was underway.  At every moment
no URI is loading twice, and none is loading that was loaded.  The URIs loading are
those whose load is underway; if it is a success now, the names provided besides
are those of the scripts of this URI that started since the load began, and if it
fails none is. -/
theorem effect_eq_fetch_iff {actions : List Action} (reached : Run host actions loader) :
    let history := history host {} actions
    loader.journal.filter Report.begins = history.filterMap Moment.effect? ∧
      (starts history).Subperm (Loader.accepted actions) ∧
      (∀ before current script after,
        history = before ++ .start current script :: after →
          current.uris.Nodup ∧ current.uris.Disjoint current.loaded ∧
          ∀ uri, (Moment.start current script).effect? = some (.fetch uri) ↔
            script.source = .uri uri ∧ (∀ scripts, ¬ Underway before uri scripts) ∧
              .finish uri (.ok ()) ∉ before) ∧
      (∀ before uri outcome after, history = before ++ .finish uri outcome :: after →
        ∃ scripts, Underway before uri scripts) ∧
      loader.uris.Nodup ∧ loader.uris.Disjoint loader.loaded ∧
      (∀ uri, uri ∈ loader.uris ↔ ∃ scripts, Underway history uri scripts) ∧
      ∀ uri scripts, Underway history uri scripts →
        loader.complete host uri (.ok ()) =
          ((loader.merge uri).2.run host (loader.merge uri).1).settle ∧
        (∀ name, name ∈ (loader.merge uri).2.resolver.provided ↔
          name ∈ loader.resolver.provided ∨ ∃ script ∈ scripts, name ∈ script.provides) ∧
        ∀ error, (loader.complete host uri (.error error)).resolver = loader.resolver := by
  intro history
  have account := account_run reached
  have sparing := sparing_run reached
  have shared : ((Loader.accepted actions).filter loader.resolver.meets).Perm
      (starts history) := by simpa using account.shared
  refine ⟨account.journal, shared.symm.subperm.trans List.filter_sublist.subperm,
    fun before current script after split =>
      sparing.moments before (.start current script) after split,
    fun before uri outcome after split =>
      sparing.moments before (.finish uri outcome) after split,
    sparing.single, sparing.apart, sparing.underway, ?_⟩
  intro uri scripts underway
  refine ⟨complete_ok host loader uri, ?_, ?_⟩
  · intro name
    rw [merge_resolver, Resolver.mem_provided_provide,
      sparing.promised uri scripts underway]
  · intro error
    rw [complete_error, resolver_settle]
    rfl

/-- Two scripts of one URI start, and the load that the first asks for fails.  Then
a third one asks for it again, a fourth one joins, and what these two provide is
provided when the load is a success. -/
theorem effect_eq_fetch_iff_retried :
    let host : ScriptHost := { execute := fun _ _ => .ok () }
    let announce (name : String) : Action :=
      .submit { scripts := [{ uri := some "a.js", provides := [name] }] }
    let actions : List Action :=
      [announce "first", announce "second",
        .complete "a.js" (.error (.timeout "a.js" 1)), announce "third", announce "fourth"]
    ∃ loader, Run host actions loader ∧
      loader.journal.filter Report.begins = [.fetch "a.js", .fetch "a.js"] ∧
      (starts (history host {} actions)).length = 4 ∧
      (starts (history host {} actions)).Subperm (Loader.accepted actions) ∧
      (loader.merge "a.js").2.resolver.provided = ["fourth", "third"] ∧
      ∃ scripts, Underway (history host {} actions) "a.js" scripts ∧
        ∀ name, name ∈ (loader.merge "a.js").2.resolver.provided ↔
          name ∈ loader.resolver.provided ∨ ∃ script ∈ scripts, name ∈ script.provides := by
  intro host announce actions
  let resources (name : String) : PageResources :=
    { scripts := [{ uri := some "a.js", provides := [name] }] }
  have begun : Run host [announce "first", announce "second"] _ :=
    .submit (resources "second") (.submit (resources "first") .start)
  have failed := Run.complete (.error (.timeout "a.js" 1)) begun
    (show "a.js" ∈ ((({} : Loader).submit host (resources "first")).submit host
      (resources "second")).uris by decide +kernel)
  have reached : Run host actions _ :=
    .submit (resources "fourth") (.submit (resources "third") failed)
  obtain ⟨_, once, _, _, _, _, underway, merged⟩ := effect_eq_fetch_iff reached
  obtain ⟨scripts, load⟩ := (underway "a.js").mp (by decide +kernel)
  exact ⟨_, reached, by decide +kernel, by decide +kernel, once, by decide +kernel, scripts,
    load, (merged "a.js" scripts load).2.1⟩

end PageSession.Loader
