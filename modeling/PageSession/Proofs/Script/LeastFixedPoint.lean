import PageSession.Proofs.Script.Release
import PageSession.Proofs.Script.Run
import Mathlib.Order.Bounds.Basic

/-!
# The names provided are the least fixed point of the dependencies

When the outcome of a script depends on its source only, the order in which
scripts are announced and in which their loads end does not matter.  Whenever
nothing is loading, the names provided are the least set that contains what
every accepted script provides whose source succeeds and whose requirements are
in the set.

The induction is on the run, and within a step on the scripts that may start.
Its invariant says of every script that could have provided its names why it
has not done so yet: it is about to start, or its URI is loading.
-/

namespace PageSession.Loader

/-- A set of names that scripts which succeed do not leave. -/
def Closed (succeeds : ScriptSource → Bool) (scripts : List ScriptDescriptor)
    (names : Set String) : Prop :=
  ∀ script ∈ scripts, succeeds script.source = true →
    (∀ name ∈ script.requires, name ∈ names) →
      ∀ name ∈ script.provides, name ∈ names

/-- The outcomes of a host and of a list of actions depend on sources only. -/
structure Determined (succeeds : ScriptSource → Bool) (host : ScriptHost)
    (actions : List Action) : Prop where
  executes : ∀ executions source,
    (host.execute executions source).isOk = succeeds (.inline source)
  completes : ∀ uri outcome, .complete uri outcome ∈ actions →
    outcome.isOk = succeeds (.uri uri)

/-- The names of a script are provided, or will be once its URI is loaded. -/
def Served (loader : Loader) (script : ScriptDescriptor) : Prop :=
  (∀ name ∈ script.provides, name ∈ loader.resolver.provided) ∨
    ∃ uri ∈ loader.uris, script.source = .uri uri ∧
      ∀ name ∈ script.provides, name ∈ loader.promised uri

/-- What holds of a loader that has accepted some scripts, of which `ready` are
about to start. -/
structure Progress (succeeds : ScriptSource → Bool)
    (accepted ready : List ScriptDescriptor) (loader : Loader) : Prop where
  tracks : loader.resolver.Tracks accepted
  ascending : Names.Ascending loader.resolver.provided
  startable : ∀ script ∈ ready, script ∈ accepted ∧ loader.resolver.meets script = true
  served : ∀ script ∈ accepted, succeeds script.source = true →
    loader.resolver.meets script = true → script ∈ ready ∨ loader.Served script
  loadedSucceed : ∀ uri ∈ loader.loaded, succeeds (.uri uri) = true
  providedSound : ∀ names, Closed succeeds accepted names →
    ∀ name ∈ loader.resolver.provided, name ∈ names
  promisedSound : ∀ names, Closed succeeds accepted names →
    ∀ uri ∈ loader.uris, succeeds (.uri uri) = true →
      ∀ name ∈ loader.promised uri, name ∈ names

variable {succeeds : ScriptSource → Bool} {accepted ready : List ScriptDescriptor}
  {loader : Loader}

theorem progress_start : Progress succeeds [] [] {} where
  tracks := Resolver.tracks_start
  ascending := List.Pairwise.nil
  startable := by simp
  served := by simp
  loadedSucceed := by simp
  providedSound := by simp
  promisedSound := by simp [uris]

namespace Progress

theorem of_sameScripts {other : Loader}
    (progress : Progress succeeds accepted ready loader)
    (same : SameScripts loader other) :
    Progress succeeds accepted ready other := by
  obtain ⟨sameResolver, sameLoading, sameLoaded⟩ := same
  have sameUris : other.uris = loader.uris := by rw [uris, uris, sameLoading]
  have samePromised : other.promised = loader.promised := by
    funext uri
    rw [promised, promised, sameLoading]
  exact
    { tracks := sameResolver ▸ progress.tracks
      ascending := sameResolver ▸ progress.ascending
      startable := sameResolver ▸ progress.startable
      served := by
        unfold Served
        rw [sameResolver, sameUris, samePromised]
        exact progress.served
      loadedSucceed := sameLoaded ▸ progress.loadedSucceed
      providedSound := sameResolver ▸ progress.providedSound
      promisedSound := by
        rw [sameUris, samePromised]
        exact progress.promisedSound }

/-- What a script about to start provides is in every closed set. -/
theorem provides_mem {script : ScriptDescriptor}
    (progress : Progress succeeds accepted ready loader) (starts : script ∈ ready)
    (outcome : succeeds script.source = true) {names : Set String}
    (closed : Closed succeeds accepted names) :
    ∀ name ∈ script.provides, name ∈ names := by
  obtain ⟨member, meets⟩ := progress.startable script starts
  apply closed script member outcome
  intro name required
  exact progress.providedSound names closed name
    (Resolver.meets_iff.mp meets name required)

/-- A script need not start any more once it is served. -/
theorem drop {script : ScriptDescriptor} {rest : List ScriptDescriptor}
    (progress : Progress succeeds accepted (script :: rest) loader)
    (served : succeeds script.source = true → loader.Served script) :
    Progress succeeds accepted rest loader :=
  { progress with
    startable := fun other starts =>
      progress.startable other (List.mem_cons_of_mem script starts)
    served := by
      intro other member outcome meets
      rcases progress.served other member outcome meets with starts | done
      · rcases List.mem_cons.mp starts with equal | starts
        · subst equal
          exact .inr (served outcome)
        · exact .inl starts
      · exact .inr done }

/-- Names that every closed set has are provided. -/
theorem provide (progress : Progress succeeds accepted ready loader) {names : Names}
    (sound : ∀ closedNames, Closed succeeds accepted closedNames →
      ∀ name ∈ names, name ∈ closedNames) :
    Progress succeeds accepted (ready ++ (loader.provide names).1)
      (loader.provide names).2 where
  tracks := Resolver.tracks_provide progress.tracks names
  ascending := Resolver.ascending_provide progress.ascending names
  startable := by
    intro script starts
    rcases List.mem_append.mp starts with starts | released
    · obtain ⟨member, meets⟩ := progress.startable script starts
      refine ⟨member, Resolver.meets_of_subset ?_ meets⟩
      intro name known
      exact Resolver.mem_provided_provide.mpr (.inl known)
    · obtain ⟨member, meets, _⟩ :=
        (Resolver.mem_provide_fst progress.tracks).mp released
      exact ⟨member, meets⟩
  served := by
    intro script member outcome meets
    cases before : loader.resolver.meets script with
    | false =>
        have released : script ∈ (loader.provide names).1 :=
          (Resolver.mem_provide_fst progress.tracks).mpr ⟨member, meets, before⟩
        exact .inl (List.mem_append_right ready released)
    | true =>
        rcases progress.served script member outcome before with
          starts | provided | load
        · exact .inl (List.mem_append_left _ starts)
        · refine .inr (.inl ?_)
          intro name offered
          exact Resolver.mem_provided_provide.mpr (.inl (provided name offered))
        · exact .inr (.inr load)
  loadedSucceed := progress.loadedSucceed
  providedSound := by
    intro closedNames closed name known
    rcases Resolver.mem_provided_provide.mp known with old | new
    · exact progress.providedSound closedNames closed name old
    · exact sound closedNames closed name new
  promisedSound := progress.promisedSound

theorem join {script : ScriptDescriptor} {rest : List ScriptDescriptor} {uri : String}
    (progress : Progress succeeds accepted (script :: rest) loader)
    (source : script.source = .uri uri) (present : uri ∈ loader.uris) :
    Progress succeeds accepted rest (loader.join uri script.provides) := by
  have grows : ∀ other, ∀ name ∈ loader.promised other,
      name ∈ (loader.join uri script.provides).promised other := by
    intro other name old
    by_cases same : other = uri
    · subst same
      rw [promised_join_self present]
      exact Names.mem_union.mpr (.inl old)
    · rw [promised_join_of_ne same]
      exact old
  have joined : Progress succeeds accepted (script :: rest)
      (loader.join uri script.provides) :=
    { progress with
      served := by
        intro other member outcome meets
        rcases progress.served other member outcome meets with starts | provided | load
        · exact .inl starts
        · exact .inr (.inl provided)
        · obtain ⟨load, loading, named, offers⟩ := load
          refine .inr (.inr ⟨load, by simpa using loading, named, ?_⟩)
          intro name offered
          exact grows load name (offers name offered)
      promisedSound := by
        intro names closed other loading outcome name offered
        rw [uris_join] at loading
        by_cases same : other = uri
        · subst same
          rw [promised_join_self present] at offered
          rcases Names.mem_union.mp offered with old | new
          · exact progress.promisedSound names closed other loading outcome name old
          · exact progress.provides_mem List.mem_cons_self (source ▸ outcome) closed
              name new
        · rw [promised_join_of_ne same] at offered
          exact progress.promisedSound names closed other loading outcome name offered }
  apply joined.drop
  intro _
  refine .inr ⟨uri, by simpa using present, source, ?_⟩
  intro name offered
  rw [promised_join_self present]
  exact Names.mem_union.mpr (.inr offered)

theorem fetch {script : ScriptDescriptor} {rest : List ScriptDescriptor} {uri : String}
    (progress : Progress succeeds accepted (script :: rest) loader)
    (source : script.source = .uri uri) (absent : uri ∉ loader.uris) :
    Progress succeeds accepted rest (loader.fetch uri script.provides) := by
  have kept : ∀ other ∈ loader.uris,
      (loader.fetch uri script.provides).promised other = loader.promised other := by
    intro other loading
    apply promised_fetch_of_ne
    intro same
    exact absent (same ▸ loading)
  have fetched : Progress succeeds accepted (script :: rest)
      (loader.fetch uri script.provides) :=
    { tracks := by simpa using progress.tracks
      ascending := by simpa using progress.ascending
      startable := by simpa using progress.startable
      served := by
        intro other member outcome meets
        rw [resolver_fetch] at meets
        rcases progress.served other member outcome meets with starts | provided | load
        · exact .inl starts
        · exact .inr (.inl (by simpa using provided))
        · obtain ⟨load, loading, named, offers⟩ := load
          refine .inr (.inr ⟨load, by simp [loading], named, ?_⟩)
          rw [kept load loading]
          exact offers
      loadedSucceed := by simpa using progress.loadedSucceed
      providedSound := by simpa using progress.providedSound
      promisedSound := by
        intro names closed other loading outcome
        rw [uris_fetch, List.mem_append, List.mem_singleton] at loading
        rcases loading with loading | same
        · rw [kept other loading]
          exact progress.promisedSound names closed other loading outcome
        · subst same
          rw [promised_fetch_self absent]
          exact progress.provides_mem List.mem_cons_self (source ▸ outcome) closed }
  apply fetched.drop
  intro _
  refine .inr ⟨uri, by simp, source, ?_⟩
  rw [promised_fetch_self absent]
  exact fun _ offered => offered

/-- Starting a script keeps the invariant; the scripts released by it start
after those that were about to. -/
theorem start {host : ScriptHost} {script : ScriptDescriptor}
    {rest : List ScriptDescriptor}
    (progress : Progress succeeds accepted (script :: rest) loader)
    (executes : ∀ executions source,
      (host.execute executions source).isOk = succeeds (.inline source)) :
    Progress succeeds accepted (rest ++ (loader.start host script).1)
      (loader.start host script).2 := by
  have provides : succeeds script.source = true →
      Progress succeeds accepted (rest ++ (loader.provide script.provides).1)
        (loader.provide script.provides).2 := by
    intro outcome
    apply (progress.provide fun names closed =>
      progress.provides_mem List.mem_cons_self outcome closed).drop
    intro _
    exact .inl fun name offered => Resolver.mem_provided_provide.mpr (.inr offered)
  refine @start_cases host loader script
    (fun started => Progress succeeds accepted (rest ++ started.1) started.2)
    ?joins ?knows ?fetches ?executes ?fails
  case joins =>
    intro uri source present
    simpa using progress.join source present
  case knows =>
    intro uri source _ known
    exact provides (source ▸ progress.loadedSucceed uri known)
  case fetches =>
    intro uri source absent _
    simpa using progress.fetch source absent
  case executes =>
    intro source inline succeeded
    have outcome : succeeds script.source = true := by
      rw [inline, ← executes loader.executions source, succeeded]
      rfl
    exact (provides outcome).of_sameScripts ⟨rfl, rfl, rfl⟩
  case fails =>
    intro source error inline failed
    have dropped : Progress succeeds accepted rest loader := by
      apply progress.drop
      intro outcome
      rw [inline, ← executes loader.executions source, failed] at outcome
      contradiction
    rw [List.append_nil]
    exact dropped.of_sameScripts ⟨rfl, rfl, rfl⟩

theorem settle (progress : Progress succeeds accepted ready loader) :
    Progress succeeds accepted ready loader.settle :=
  progress.of_sameScripts (sameScripts_settle loader)

theorem run {host : ScriptHost} (progress : Progress succeeds accepted ready loader)
    (executes : ∀ executions source,
      (host.execute executions source).isOk = succeeds (.inline source)) :
    Progress succeeds accepted [] (loader.run host ready) := by
  apply run_induction (motive := Progress succeeds accepted) _ progress
  intro loader script rest progress
  exact progress.start executes

theorem enlist (progress : Progress succeeds accepted ready loader)
    (script : ScriptDescriptor) :
    Progress succeeds (accepted ++ [script])
      (ready ++ (loader.resolver.enroll script).1.toList) (loader.enlist script) := by
  have smaller : ∀ names, Closed succeeds (accepted ++ [script]) names →
      Closed succeeds accepted names :=
    fun names closed other member => closed other (List.mem_append_left _ member)
  have same : (loader.enlist script).resolver.provided = loader.resolver.provided :=
    Resolver.provided_enroll loader.resolver script
  have meetsSame := Resolver.meets_congr same
  exact
    { tracks := Resolver.tracks_enroll progress.tracks script
      ascending := by rw [same]; exact progress.ascending
      startable := by
        intro other starts
        rw [meetsSame]
        rcases List.mem_append.mp starts with starts | starts
        · obtain ⟨member, meets⟩ := progress.startable other starts
          exact ⟨List.mem_append_left _ member, meets⟩
        · rw [Resolver.enroll_fst] at starts
          split at starts
          · rename_i meets
            have equal : other = script := by simpa using starts
            subst equal
            exact ⟨by simp, meets⟩
          · simp at starts
      served := by
        intro other member outcome meets
        rw [meetsSame] at meets
        rcases List.mem_append.mp member with member | equal
        · rcases progress.served other member outcome meets with
            starts | provided | load
          · exact .inl (List.mem_append_left _ starts)
          · refine .inr (.inl ?_)
            rw [same]
            exact provided
          · exact .inr (.inr load)
        · rw [List.mem_singleton] at equal
          subst equal
          rw [Resolver.enroll_fst, meets]
          exact .inl (by simp)
      loadedSucceed := progress.loadedSucceed
      providedSound := by
        intro names closed
        rw [same]
        exact progress.providedSound names (smaller names closed)
      promisedSound := fun names closed =>
        progress.promisedSound names (smaller names closed) }

theorem enroll (progress : Progress succeeds accepted ready loader)
    (resources : List ScriptResource) :
    Progress succeeds (accepted ++ ScriptDescriptor.accepted resources)
      (ready ++ (loader.enroll resources).1) (loader.enroll resources).2 := by
  apply enroll_induction (motive := Progress succeeds) _ _ progress
  · intro accepted ready loader error progress
    exact progress.of_sameScripts (sameScripts_report loader _)
  · intro accepted ready loader script progress
    exact progress.enlist script

/-- A load is over, and the scripts it served have their names or have failed. -/
theorem unload {uri : String} (progress : Progress succeeds accepted ready loader)
    (ended : succeeds (.uri uri) = true →
      ∀ name ∈ loader.promised uri, name ∈ loader.resolver.provided) :
    Progress succeeds accepted ready (loader.unload uri) :=
  { progress with
    served := by
      intro script member outcome meets
      rcases progress.served script member outcome meets with starts | provided | load
      · exact .inl starts
      · exact .inr (.inl provided)
      · obtain ⟨other, loading, source, offers⟩ := load
        by_cases same : other = uri
        · subst same
          refine .inr (.inl ?_)
          intro name offered
          exact ended (source ▸ outcome) name (offers name offered)
        · refine .inr (.inr ⟨other, by simp [loading, same], source, ?_⟩)
          rw [promised_unload_of_ne same]
          exact offers
    promisedSound := by
      intro names closed other loading outcome
      rw [uris_unload, List.mem_filter] at loading
      obtain ⟨loading, different⟩ := loading
      rw [promised_unload_of_ne (by simpa using different)]
      exact progress.promisedSound names closed other loading outcome }

theorem recordLoaded {uri : String} (progress : Progress succeeds accepted ready loader)
    (succeeded : succeeds (.uri uri) = true) :
    Progress succeeds accepted ready (loader.recordLoaded uri) := by
  have sameUris : (loader.recordLoaded uri).uris = loader.uris := by
    rw [uris, uris, loading_recordLoaded]
  have samePromised : (loader.recordLoaded uri).promised = loader.promised := by
    funext other
    rw [promised, promised, loading_recordLoaded]
  exact
    { tracks := by simpa using progress.tracks
      ascending := by simpa using progress.ascending
      startable := by simpa using progress.startable
      served := by
        unfold Served
        rw [resolver_recordLoaded, sameUris, samePromised]
        exact progress.served
      loadedSucceed := by
        intro other known
        rcases (mem_loaded_recordLoaded loader uri other).mp known with equal | known
        · exact equal ▸ succeeded
        · exact progress.loadedSucceed other known
      providedSound := by simpa using progress.providedSound
      promisedSound := by
        rw [sameUris, samePromised]
        exact progress.promisedSound }

theorem submit {host : ScriptHost} (progress : Progress succeeds accepted [] loader)
    (executes : ∀ executions source,
      (host.execute executions source).isOk = succeeds (.inline source))
    (resources : PageResources) :
    Progress succeeds (accepted ++ ScriptDescriptor.accepted resources.scripts) []
      (loader.submit host resources) := by
  have styled :=
    progress.of_sameScripts (restyled_applyStyles loader resources).sameScripts
  have enrolled := styled.enroll resources.scripts
  exact (enrolled.run executes).settle

theorem complete {host : ScriptHost} {uri : String} {outcome : Except ScriptError Unit}
    (progress : Progress succeeds accepted [] loader)
    (executes : ∀ executions source,
      (host.execute executions source).isOk = succeeds (.inline source))
    (goesOn : uri ∈ loader.uris) (ends : outcome.isOk = succeeds (.uri uri)) :
    Progress succeeds accepted [] (loader.complete host uri outcome) := by
  cases outcome with
  | ok _ =>
      have succeeded : succeeds (.uri uri) = true := ends.symm
      -- The names come first here: without them no script served by the load
      -- would be accounted for once the load is gone.
      have provided := progress.provide fun names closed =>
        progress.promisedSound names closed uri goesOn succeeded
      have ended := provided.unload fun _ name offered =>
        Resolver.mem_provided_provide.mpr (.inr offered)
      have recorded := ended.recordLoaded succeeded
      rw [complete_ok]
      refine Progress.settle (Progress.run ?_ executes)
      rw [provide_recordLoaded_unload]
      exact recorded
  | error error =>
      have failed : succeeds (.uri uri) = false := ends.symm
      have ended : Progress succeeds accepted [] (loader.unload uri) := by
        apply progress.unload
        intro succeeded
        rw [failed] at succeeded
        contradiction
      rw [complete_error]
      exact (ended.of_sameScripts (sameScripts_report _ _)).settle

end Progress

theorem Determined.of_append {host : ScriptHost} {actions : List Action}
    {action : Action}
    (determined : Determined succeeds host (actions ++ [action])) :
    Determined succeeds host actions where
  executes := determined.executes
  completes := fun uri outcome member =>
    determined.completes uri outcome (List.mem_append_left _ member)

theorem progress_run {host : ScriptHost} {actions : List Action}
    (reached : Run host actions loader)
    (determined : Determined succeeds host actions) :
    Progress succeeds (Loader.accepted actions) [] loader := by
  induction reached with
  | start => exact progress_start
  | submit resources _ induction =>
      have progress := induction determined.of_append
      rw [accepted_submit]
      exact progress.submit determined.executes resources
  | complete outcome _ goesOn induction =>
      have progress := induction determined.of_append
      rw [accepted_complete]
      exact progress.complete determined.executes goesOn
        (determined.completes _ outcome (by simp))

theorem Progress.isLeast (progress : Progress succeeds accepted [] loader)
    (idle : loader.loading = []) :
    IsLeast { names | Closed succeeds accepted names }
      { name | name ∈ loader.resolver.provided } := by
  constructor
  · intro script member outcome required
    have meets : loader.resolver.meets script = true := Resolver.meets_iff.mpr required
    rcases progress.served script member outcome meets with starts | provided | load
    · contradiction
    · exact provided
    · obtain ⟨uri, loading, _⟩ := load
      rw [uris_eq_nil.mpr idle] at loading
      contradiction
  · intro names closed name known
    exact progress.providedSound names closed name known

theorem closed_perm {scripts others : List ScriptDescriptor}
    (same : scripts.Perm others) {names : Set String} :
    Closed succeeds scripts names ↔ Closed succeeds others names := by
  simp only [Closed, same.mem_iff]

/-- Whenever nothing is loading, the names provided are the least set closed
under the accepted scripts that succeed, and the scripts that wait are those
that require a name outside of it, in their order.  The order in which scripts
are announced and in which loads end makes no difference to either. -/
theorem isLeast_provided {host : ScriptHost} {actions : List Action}
    (reached : Run host actions loader)
    (determined : Determined succeeds host actions) (idle : loader.loading = []) :
    IsLeast { names | Closed succeeds (Loader.accepted actions) names }
        { name | name ∈ loader.resolver.provided } ∧
      loader.resolver.pending = loader.resolver.awaiting (Loader.accepted actions) ∧
      ∀ {otherHost : ScriptHost} {otherActions : List Action} {other : Loader},
        Run otherHost otherActions other → Determined succeeds otherHost otherActions →
        other.loading = [] →
        (Loader.accepted actions).Perm (Loader.accepted otherActions) →
          loader.resolver.provided = other.resolver.provided ∧
            loader.resolver.pending.Perm other.resolver.pending := by
  have progress := progress_run reached determined
  refine ⟨progress.isLeast idle, progress.tracks, ?_⟩
  intro otherHost otherActions other otherReached otherDetermined otherIdle same
  have otherProgress := progress_run otherReached otherDetermined
  have least := progress.isLeast idle
  simp only [closed_perm same] at least
  have sameNames := least.unique (otherProgress.isLeast otherIdle)
  have sameProvided : loader.resolver.provided = other.resolver.provided := by
    apply progress.ascending.eq_of_mem_iff otherProgress.ascending
    exact fun name => Set.ext_iff.mp sameNames name
  refine ⟨sameProvided, ?_⟩
  calc
    loader.resolver.pending
        = loader.resolver.awaiting (Loader.accepted actions) := progress.tracks
    _ = other.resolver.awaiting (Loader.accepted actions) :=
      Resolver.awaiting_congr sameProvided _
    List.Perm _ (other.resolver.awaiting (Loader.accepted otherActions)) :=
      (same.filter _).map _
    _ = other.resolver.pending := otherProgress.tracks.symm

/-! ## A library and the scripts that depend on it -/

/-- A host on which the source `throw` fails and every other one succeeds. -/
def throwingHost : ScriptHost where
  execute _ source := if source = "throw" then .error (.execute source) else .ok ()

/-- One URI twice, and a resource without a source. -/
def libraryScripts : PageResources where
  scripts :=
    [{ uri := some "lib.js", provides := ["lib"] },
      { uri := some "lib.js", provides := ["extra"] }, {}]

/-- The second script fails, so the third waits for ever. -/
def dependentScripts : PageResources where
  scripts :=
    [{ source := some "use", provides := ["used"], requires := ["lib", "extra"] },
      { source := some "throw", provides := ["never"], requires := ["used"] },
      { source := some "last", requires := ["never", "used"] }]

def libraryFirst : List Action :=
  [.submit libraryScripts, .complete "lib.js" (.ok ()), .submit dependentScripts]

def dependentsFirst : List Action :=
  [.submit dependentScripts, .submit libraryScripts, .complete "lib.js" (.ok ())]

theorem determined_throwingHost {actions : List Action}
    (loads : ∀ uri outcome, .complete uri outcome ∈ actions → outcome.isOk = true) :
    Determined (fun source => decide (source ≠ .inline "throw")) throwingHost
      actions where
  executes := by
    intro executions source
    by_cases throws : source = "throw"
    · simp [throwingHost, throws, Except.isOk, Except.toBool]
    · simp [throwingHost, throws, Except.isOk, Except.toBool]
  completes := by simpa using loads

theorem isLeast_provided_library :
    ∃ loader other : Loader,
      Run throwingHost libraryFirst loader ∧ Run throwingHost dependentsFirst other ∧
      loader.resolver.provided = ["extra", "lib", "used"] ∧
      loader.resolver.provided = other.resolver.provided ∧
      loader.resolver.pending.Perm other.resolver.pending := by
  have library : Run throwingHost libraryFirst _ :=
    .submit dependentScripts
      (.complete (.ok ()) (.submit libraryScripts .start) (by decide +kernel))
  have dependents : Run throwingHost dependentsFirst _ :=
    .complete (.ok ()) (.submit libraryScripts (.submit dependentScripts .start))
      (by decide +kernel)
  have same : (accepted libraryFirst).Perm (accepted dependentsFirst) := by
    decide +kernel
  have libraryDetermined := @determined_throwingHost libraryFirst
    (by simp [libraryFirst, Except.isOk, Except.toBool])
  have dependentsDetermined := @determined_throwingHost dependentsFirst
    (by simp [dependentsFirst, Except.isOk, Except.toBool])
  refine ⟨_, _, library, dependents, by decide +kernel, ?_⟩
  obtain ⟨_, _, order⟩ := isLeast_provided library libraryDetermined (by decide +kernel)
  exact order dependents dependentsDetermined (by decide +kernel) same

end PageSession.Loader
