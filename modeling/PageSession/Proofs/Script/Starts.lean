import PageSession.Proofs.Script.LeastFixedPoint
import PageSession.Proofs.Script.Waiting

/-!
# Scripts start once, and when their requirements are met

The history of a run is the sequence of moments at which a script starts or a
load ends.  Every accepted script is in it once or waits, starts only when every
name it requires is provided, and every name provided comes from a script that
has completed: its source succeeded, or its URI was loaded with success.
-/

namespace PageSession.Loader

/-- One moment of a run. -/
inductive Moment where
  | start (loader : Loader) (script : ScriptDescriptor)
  | finish (uri : String) (outcome : Except ScriptError Unit)

def Moment.script? : Moment → Option ScriptDescriptor
  | .start _ script => some script
  | .finish _ _ => none

def Moment.provided? : Moment → Option Names
  | .start loader _ => some loader.resolver.provided
  | .finish _ _ => none

def Moment.ends (uri : String) : Moment → Bool
  | .start _ _ => false
  | .finish other _ => other == uri

/-- What the page is asked to do when a script starts: to run its source, or to
load its URI unless it was loaded or is being loaded. -/
def Moment.effect? : Moment → Option Report
  | .start loader script =>
      match script.source with
      | .inline source => some (.execute source)
      | .uri uri =>
          if uri ∈ loader.uris ∨ uri ∈ loader.loaded then none
          else some (.fetch uri)
  | .finish _ _ => none

/-- Whether an entry asks the page to run or load a script. -/
def Report.begins : Report → Bool
  | .execute _ | .fetch _ => true
  | _ => false

/-- The moments of working through the scripts that may start. -/
def pass (host : ScriptHost) (loader : Loader) : List ScriptDescriptor → List Moment
  | [] => []
  | script :: rest =>
      let started := loader.start host script
      .start loader script :: pass host started.2 (rest ++ started.1)
termination_by ready => ready.length + loader.resolver.pending.length
decreasing_by
  have moved := length_start host loader script
  simp only [List.length_append, List.length_cons]
  omega

def perform (host : ScriptHost) (loader : Loader) : Action → Loader
  | .submit resources => loader.submit host resources
  | .complete uri outcome => loader.complete host uri outcome

def moments (host : ScriptHost) (loader : Loader) : Action → List Moment
  | .submit resources =>
      let (ready, enrolled) := (loader.applyStyles resources).enroll resources.scripts
      enrolled.pass host ready
  | .complete uri (.ok ()) =>
      let (released, provided) :=
        ((loader.unload uri).recordLoaded uri).provide (loader.promised uri)
      .finish uri (.ok ()) :: provided.pass host released
  | .complete uri (.error error) => [.finish uri (.error error)]

/-- The moments of some actions, in order. -/
def history (host : ScriptHost) (loader : Loader) : List Action → List Moment
  | [] => []
  | action :: actions =>
      loader.moments host action ++
        (loader.perform host action).history host actions

/-- The scripts started in the course of some moments, in order. -/
def starts (past : List Moment) : List ScriptDescriptor :=
  past.filterMap Moment.script?

/-- A script has started, and the load of its URI has not ended since. -/
def Awaits (past : List Moment) (uri : String) (script : ScriptDescriptor) : Prop :=
  ∃ before loader after, past = before ++ .start loader script :: after ∧
    script.source = .uri uri ∧ after.find? (Moment.ends uri) = none

/-- A script has started and completed. -/
inductive Completed (host : ScriptHost) (past : List Moment)
    (script : ScriptDescriptor) : Prop
  /-- Its source was run with success. -/
  | executed {loader : Loader} {source : String}
      (started : .start loader script ∈ past)
      (inline : script.source = .inline source)
      (succeeded : host.execute loader.executions source = .ok ())
  /-- Its URI had been loaded with success when it started. -/
  | known {before after : List Moment} {loader : Loader} {uri : String}
      (split : past = before ++ .start loader script :: after)
      (source : script.source = .uri uri)
      (succeeded : .finish uri (.ok ()) ∈ before)
  /-- The load of its URI that went on when it started, or started with it, was
  a success. -/
  | loaded {before after : List Moment} {loader : Loader} {uri : String}
      (split : past = before ++ .start loader script :: after)
      (source : script.source = .uri uri)
      (succeeded : after.find? (Moment.ends uri) = some (.finish uri (.ok ())))

/-- What holds of a script when it starts: it was accepted, its requirements are
met, and every name provided comes from a script that has completed. -/
def Moment.Justified (host : ScriptHost) (accepted : List ScriptDescriptor)
    (past : List Moment) : Moment → Prop
  | .start loader script =>
      script ∈ accepted ∧
        (∀ name ∈ script.requires, name ∈ loader.resolver.provided) ∧
        ∀ name ∈ loader.resolver.provided,
          ∃ other, Completed host past other ∧ name ∈ other.provides
  | .finish _ _ => True

variable {host : ScriptHost} {past more : List Moment}
  {accepted ready : List ScriptDescriptor} {loader : Loader}
  {script : ScriptDescriptor}

theorem Completed.append (completed : Completed host past script) :
    Completed host (past ++ more) script := by
  cases completed with
  | executed started inline succeeded =>
      exact .executed (List.mem_append_left more started) inline succeeded
  | @known before after loader uri split source succeeded =>
      have split : past ++ more = before ++ .start loader script :: (after ++ more) := by
        simp [split]
      exact .known split source succeeded
  | @loaded before after loader uri split source succeeded =>
      have split : past ++ more = before ++ .start loader script :: (after ++ more) := by
        simp [split]
      exact .loaded split source (by simp [List.find?_append, succeeded])

theorem Awaits.append {uri : String} (awaits : Awaits past uri script)
    (none : more.find? (Moment.ends uri) = none) :
    Awaits (past ++ more) uri script := by
  obtain ⟨before, loader, after, rfl, source, goesOn⟩ := awaits
  refine ⟨before, loader, after ++ more, by simp, source, ?_⟩
  simp [List.find?_append, goesOn, none]

/-- The scripts that wait for a load have completed when it succeeds. -/
theorem Awaits.completed {uri : String} (awaits : Awaits past uri script) :
    Completed host (past ++ [.finish uri (.ok ())]) script := by
  obtain ⟨before, loader, after, rfl, source, goesOn⟩ := awaits
  have split : before ++ .start loader script :: after ++ [.finish uri (.ok ())] =
      before ++ .start loader script :: (after ++ [.finish uri (.ok ())]) := by
    simp
  exact .loaded split source (by simp [List.find?_append, goesOn, Moment.ends])

theorem journal_fetch (loader : Loader) (uri : String) (provides : Names) :
    (loader.fetch uri provides).journal.filter Report.begins =
      loader.journal.filter Report.begins ++ [.fetch uri] := by
  unfold fetch hold
  split <;> simp [Loader.report, Report.begins]

theorem journal_recordLoaded (loader : Loader) (uri : String) :
    (loader.recordLoaded uri).journal = loader.journal := by
  unfold recordLoaded
  split <;> rfl

/-! ## What a pass keeps -/

/-- What holds of a loader that has accepted some scripts, of which `ready` are
about to start, after the moments of `past`. -/
structure Account (host : ScriptHost) (past : List Moment)
    (accepted ready : List ScriptDescriptor) (loader : Loader) : Prop where
  tracks : loader.resolver.Tracks accepted
  shared : (accepted.filter loader.resolver.meets).Perm (starts past ++ ready)
  justified : ∀ before moment after, past = before ++ moment :: after →
    moment.Justified host accepted before
  growing : (past.filterMap Moment.provided? ++
    [loader.resolver.provided]).Pairwise (· ⊆ ·)
  provided : ∀ name ∈ loader.resolver.provided,
    ∃ other, Completed host past other ∧ name ∈ other.provides
  loaded : ∀ uri ∈ loader.loaded, .finish uri (.ok ()) ∈ past
  promised : ∀ uri ∈ loader.uris, ∀ name ∈ loader.promised uri,
    ∃ other, Awaits past uri other ∧ name ∈ other.provides
  journal : loader.journal.filter Report.begins = past.filterMap Moment.effect?

theorem account_start : Account host [] [] [] {} where
  tracks := Resolver.tracks_start
  shared := .nil
  justified := by simp
  growing := List.pairwise_singleton _ _
  provided := by simp
  loaded := by simp
  promised := by simp [uris]
  journal := rfl

/-- What holds of every moment given those before it, and of one moment more, holds
of every moment of the longer history. -/
theorem forall_split_concat {holds : List Moment → Moment → Prop} {last : Moment}
    (each : ∀ before moment after, past = before ++ moment :: after → holds before moment)
    (ofLast : holds past last) (before : List Moment) (moment : Moment)
    (after : List Moment) (split : past ++ [last] = before ++ moment :: after) :
    holds before moment := by
  rcases List.eq_nil_or_concat after with rfl | ⟨earlier, final, rfl⟩
  · obtain ⟨rfl, same⟩ := List.append_inj' split rfl
    rw [← List.singleton_inj.mp same]
    exact ofLast
  · rw [List.concat_eq_append, ← List.cons_append, ← List.append_assoc] at split
    obtain ⟨same, _⟩ := List.append_inj' split rfl
    exact each before moment earlier same

theorem pairwise_subset_concat {sets : List Names} {last more : Names}
    (growing : (sets ++ [last]).Pairwise (· ⊆ ·)) (grows : last ⊆ more) :
    (sets ++ [last] ++ [more]).Pairwise (· ⊆ ·) := by
  refine List.pairwise_append.mpr ⟨growing, List.pairwise_singleton _ _, ?_⟩
  intro set member other equal
  rw [List.mem_singleton.mp equal]
  rcases List.mem_append.mp member with earlier | equal
  · have below := (List.pairwise_append.mp growing).2.2 set earlier last (by simp)
    exact List.Subset.trans below grows
  · rw [List.mem_singleton.mp equal]
    exact grows

theorem pairwise_subset_replace {sets : List Names} {last more : Names}
    (growing : (sets ++ [last]).Pairwise (· ⊆ ·)) (grows : last ⊆ more) :
    (sets ++ [more]).Pairwise (· ⊆ ·) := by
  have shorter : (sets ++ [more]).Sublist (sets ++ [last] ++ [more]) :=
    (List.sublist_append_left sets [last]).append (List.Sublist.refl _)
  exact (pairwise_subset_concat growing grows).sublist shorter

/-- The scripts that may start once more names are provided: those that could
before, and those released. -/
theorem filter_meets_perm {resolver grown : Resolver}
    (grows : ∀ name ∈ resolver.provided, name ∈ grown.provided)
    (scripts : List ScriptDescriptor) :
    (scripts.filter grown.meets).Perm
      (scripts.filter resolver.meets ++
        scripts.filter fun script => grown.meets script && !resolver.meets script) := by
  have old : (scripts.filter grown.meets).filter resolver.meets =
      scripts.filter resolver.meets := by
    rw [List.filter_filter]
    apply List.filter_congr
    intro script _
    cases enough : resolver.meets script with
    | false => rfl
    | true => simp [Resolver.meets_of_subset grows enough]
  have new : (scripts.filter grown.meets).filter (!resolver.meets ·) =
      scripts.filter fun script =>
        grown.meets script && !resolver.meets script := by
    rw [List.filter_filter]
    simp only [Bool.and_comm]
  rw [← old, ← new]
  exact (List.filter_append_perm _ _).symm

namespace Account

/-- What matters of a loader is what scripts it has and what it asked for. -/
theorem congr {other : Loader} (account : Account host past accepted ready loader)
    (same : SameScripts loader other)
    (journal : other.journal.filter Report.begins =
      loader.journal.filter Report.begins) :
    Account host past accepted ready other := by
  obtain ⟨sameResolver, sameLoading, sameLoaded⟩ := same
  have sameUris : other.uris = loader.uris := by rw [uris, uris, sameLoading]
  have samePromised : other.promised = loader.promised := by
    funext uri
    rw [Loader.promised, Loader.promised, sameLoading]
  exact
    { tracks := sameResolver ▸ account.tracks
      shared := sameResolver ▸ account.shared
      justified := account.justified
      growing := sameResolver ▸ account.growing
      provided := sameResolver ▸ account.provided
      loaded := sameLoaded ▸ account.loaded
      promised := by
        rw [sameUris, samePromised]
        exact account.promised
      journal := journal.trans account.journal }

theorem report (account : Account host past accepted ready loader) {entry : Report}
    (passive : entry.begins = false) :
    Account host past accepted ready (loader.report entry) := by
  apply account.congr (sameScripts_report loader entry)
  simp [Loader.report, passive]

/-- A script about to start was accepted, and its requirements are met. -/
theorem startable (account : Account host past accepted ready loader)
    (starts : script ∈ ready) :
    script ∈ accepted ∧ loader.resolver.meets script = true := by
  have member := account.shared.mem_iff.mpr (List.mem_append_right _ starts)
  exact List.mem_filter.mp member

/-- A script starts.  What loads promise may grow by what it provides. -/
theorem begin {rest : List ScriptDescriptor} {other : Loader}
    (account : Account host past accepted (script :: rest) loader)
    (resolver : other.resolver = loader.resolver)
    (loaded : other.loaded = loader.loaded)
    (promised : ∀ uri ∈ other.uris, ∀ name ∈ other.promised uri,
      (uri ∈ loader.uris ∧ name ∈ loader.promised uri) ∨
        (script.source = .uri uri ∧ name ∈ script.provides))
    (journal : other.journal.filter Report.begins =
      loader.journal.filter Report.begins ++
        (Moment.start loader script).effect?.toList) :
    Account host (past ++ [.start loader script]) accepted rest other := by
  obtain ⟨member, meets⟩ := account.startable List.mem_cons_self
  exact
    { tracks := resolver ▸ account.tracks
      shared := by
        rw [resolver]
        simpa [starts, Moment.script?] using account.shared
      justified := by
        apply forall_split_concat account.justified
        exact ⟨member, Resolver.meets_iff.mp meets, account.provided⟩
      growing := by
        rw [resolver, List.filterMap_append]
        exact pairwise_subset_concat account.growing (List.Subset.refl _)
      provided := by
        intro name known
        rw [resolver] at known
        obtain ⟨source, completed, offers⟩ := account.provided name known
        exact ⟨source, completed.append, offers⟩
      loaded := by
        intro uri known
        rw [loaded] at known
        exact List.mem_append_left _ (account.loaded uri known)
      promised := by
        intro uri loading name offered
        rcases promised uri loading name offered with ⟨before, old⟩ | ⟨source, new⟩
        · obtain ⟨other, awaits, offers⟩ := account.promised uri before name old
          exact ⟨other, awaits.append rfl, offers⟩
        -- What the load promises anew comes from the script that now awaits it.
        · exact ⟨script, ⟨past, loader, [], rfl, source, rfl⟩, new⟩
      journal := by
        rw [journal, account.journal, List.filterMap_append]
        cases effect : (Moment.start loader script).effect? <;> simp [effect] }

/-- Names of scripts that have completed are provided. -/
theorem provide (account : Account host past accepted ready loader) {names : Names}
    (sound : ∀ name ∈ names,
      ∃ other, Completed host past other ∧ name ∈ other.provides) :
    Account host past accepted (ready ++ (loader.provide names).1)
      (loader.provide names).2 := by
  have grows : ∀ name ∈ loader.resolver.provided,
      name ∈ (loader.resolver.provide names).2.provided :=
    fun _ known => Resolver.mem_provided_provide.mpr (.inl known)
  exact
    { tracks := Resolver.tracks_provide account.tracks names
      shared := by
        have more := filter_meets_perm grows accepted
        rw [← Resolver.provide_fst account.tracks] at more
        rw [← List.append_assoc]
        exact more.trans (account.shared.append_right _)
      justified := account.justified
      growing := pairwise_subset_replace account.growing fun _ known => grows _ known
      provided := by
        intro name known
        rcases Resolver.mem_provided_provide.mp known with old | new
        · exact account.provided name old
        · exact sound name new
      loaded := account.loaded
      promised := account.promised
      journal := account.journal }

/-! ## What a step keeps -/

theorem start {rest : List ScriptDescriptor}
    (account : Account host past accepted (script :: rest) loader) :
    Account host (past ++ [.start loader script]) accepted
      (rest ++ (loader.start host script).1) (loader.start host script).2 := by
  refine @start_cases host loader script
    (fun started => Account host (past ++ [.start loader script]) accepted
      (rest ++ started.1) started.2)
    ?joins ?knows ?fetches ?executes ?fails
  case joins =>
    intro uri source present
    rw [List.append_nil]
    refine account.begin rfl rfl ?_ ?_
    · intro other loading name offered
      rw [uris_join] at loading
      by_cases same : other = uri
      · subst same
        rw [promised_join_self present] at offered
        rcases Names.mem_union.mp offered with old | new
        · exact .inl ⟨loading, old⟩
        · exact .inr ⟨source, new⟩
      · rw [promised_join_of_ne same] at offered
        exact .inl ⟨loading, offered⟩
    · simp [join, Moment.effect?, source, present]
  -- The names provided at once come from the script that has just started: it
  -- has completed, for its URI was loaded before or its source ran.
  case knows =>
    intro uri source absent known
    have begun : Account host (past ++ [.start loader script]) accepted rest loader := by
      refine account.begin rfl rfl ?_ ?_
      · exact fun other loading name offered => .inl ⟨loading, offered⟩
      · simp [Moment.effect?, source, known]
    apply begun.provide
    intro name offered
    exact ⟨script, .known rfl source (account.loaded uri known), offered⟩
  case fetches =>
    intro uri source absent unknown
    rw [List.append_nil]
    refine account.begin (by simp) (by simp) ?_ ?_
    · intro other loading name offered
      rw [uris_fetch, List.mem_append, List.mem_singleton] at loading
      by_cases same : other = uri
      · subst same
        rw [promised_fetch_self absent] at offered
        exact .inr ⟨source, offered⟩
      · rw [promised_fetch_of_ne same] at offered
        exact .inl ⟨loading.resolve_right same, offered⟩
    · rw [journal_fetch]
      simp [Moment.effect?, source, absent, unknown]
  case executes =>
    intro source inline succeeded
    have begun : Account host (past ++ [.start loader script]) accepted rest
        (loader.executing source) := by
      refine account.begin rfl rfl ?_ ?_
      · exact fun other loading name offered => .inl ⟨loading, offered⟩
      · simp [executing, Loader.report, Moment.effect?, inline, Report.begins]
    apply begun.provide
    intro name offered
    exact ⟨script, .executed (by simp) inline succeeded, offered⟩
  case fails =>
    intro source error inline _
    rw [List.append_nil]
    refine account.begin rfl rfl ?_ ?_
    · exact fun other loading name offered => .inl ⟨loading, offered⟩
    · simp [executing, Loader.report, Moment.effect?, inline, List.filter_cons,
        Report.begins]

theorem pass (account : Account host past accepted ready loader) :
    Account host (past ++ loader.pass host ready) accepted [] (loader.run host ready) := by
  fun_induction Loader.run host loader ready generalizing past with
  | case1 loader =>
      rw [Loader.pass, List.append_nil]
      exact account
  | case2 loader script rest started =>
      rename_i induction
      have later := induction account.start
      rw [Loader.pass]
      simpa using later

theorem enlist (account : Account host past accepted ready loader)
    (script : ScriptDescriptor) :
    Account host past (accepted ++ [script])
      (ready ++ (loader.resolver.enroll script).1.toList) (loader.enlist script) := by
  have same : (loader.enlist script).resolver.provided = loader.resolver.provided :=
    Resolver.provided_enroll loader.resolver script
  have meetsSame : (loader.enlist script).resolver.meets = loader.resolver.meets := by
    funext other
    exact Resolver.meets_congr same other
  exact
    { tracks := Resolver.tracks_enroll account.tracks script
      shared := by
        rw [meetsSame, List.filter_append, Resolver.enroll_fst, ← List.append_assoc]
        have taken : [script].filter loader.resolver.meets =
            (if loader.resolver.meets script then some script else none).toList := by
          cases enough : loader.resolver.meets script <;> simp [enough]
        rw [taken]
        exact account.shared.append_right _
      justified := by
        intro before moment after split
        have old := account.justified before moment after split
        cases moment with
        | start loader script =>
            exact ⟨List.mem_append_left _ old.1, old.2⟩
        | finish uri outcome => exact old
      growing := by rw [same]; exact account.growing
      provided := by rw [same]; exact account.provided
      loaded := account.loaded
      promised := account.promised
      journal := account.journal }

theorem enroll (account : Account host past accepted ready loader)
    (resources : List ScriptResource) :
    Account host past (accepted ++ ScriptDescriptor.accepted resources)
      (ready ++ (loader.enroll resources).1) (loader.enroll resources).2 := by
  apply enroll_induction (motive := Account host past) _ _ account
  · intro accepted ready loader error account
    exact account.report rfl
  · intro accepted ready loader script account
    exact account.enlist script

theorem settle (account : Account host past accepted ready loader) :
    Account host past accepted ready loader.settle := by
  apply account.congr (sameScripts_settle loader)
  unfold Loader.settle
  simp only
  split
  · rfl
  · split <;> split <;> simp [Loader.report, Report.begins]

theorem restyle {other : Loader} (account : Account host past accepted ready loader)
    (restyled : Restyled loader other) :
    Account host past accepted ready other := by
  apply account.congr restyled.sameScripts
  obtain ⟨entries, journal, styles⟩ := restyled.journal
  have none : entries.filter Report.begins = [] := by
    apply List.filter_eq_nil_iff.mpr
    intro entry member
    have style := styles entry member
    cases entry <;> simp_all [Report.styles, Report.begins]
  rw [journal, List.filter_append, none, List.append_nil]

theorem finish {other : Loader} {uri : String}
    (account : Account host past accepted ready loader)
    (outcome : Except ScriptError Unit)
    (resolver : other.resolver = loader.resolver)
    (loaded : ∀ known ∈ other.loaded,
      known ∈ loader.loaded ∨ known = uri ∧ outcome = .ok ())
    (uris : other.uris = loader.uris.filter (· != uri))
    (promised : ∀ load ∈ other.uris, other.promised load = loader.promised load)
    (journal : other.journal.filter Report.begins =
      loader.journal.filter Report.begins) :
    Account host (past ++ [.finish uri outcome]) accepted ready other where
  tracks := resolver ▸ account.tracks
  shared := by
    rw [resolver]
    simpa [starts, List.filterMap_cons, Moment.script?] using account.shared
  justified := forall_split_concat account.justified trivial
  growing := by
    rw [resolver]
    simpa [List.filterMap_cons, Moment.provided?] using account.growing
  provided := by
    intro name known
    rw [resolver] at known
    obtain ⟨source, completed, offers⟩ := account.provided name known
    exact ⟨source, completed.append, offers⟩
  loaded := by
    intro known member
    rcases loaded known member with old | ⟨rfl, rfl⟩
    · exact List.mem_append_left _ (account.loaded known old)
    · simp
  promised := by
    intro load loading name offered
    rw [promised load loading] at offered
    rw [uris, List.mem_filter] at loading
    obtain ⟨goesOn, different⟩ := loading
    obtain ⟨source, awaits, offers⟩ := account.promised load goesOn name offered
    refine ⟨source, awaits.append ?_, offers⟩
    have otherwise : uri ≠ load := Ne.symm (by simpa using different)
    simp [Moment.ends, otherwise]
  journal := by
    rw [journal, account.journal]
    simp [Moment.effect?]

theorem submit (account : Account host past accepted [] loader)
    (resources : PageResources) :
    Account host (past ++ loader.moments host (.submit resources))
      (accepted ++ ScriptDescriptor.accepted resources.scripts) []
      (loader.submit host resources) := by
  have styled := account.restyle (restyled_applyStyles loader resources)
  have enrolled := styled.enroll resources.scripts
  exact enrolled.pass.settle

theorem complete {uri : String} (account : Account host past accepted [] loader)
    (goesOn : uri ∈ loader.uris) (outcome : Except ScriptError Unit) :
    Account host (past ++ loader.moments host (.complete uri outcome)) accepted []
      (loader.complete host uri outcome) := by
  have promised : ∀ load ∈ (loader.unload uri).uris,
      (loader.unload uri).promised load = loader.promised load := by
    intro load loading
    rw [uris_unload, List.mem_filter] at loading
    exact promised_unload_of_ne (by simpa using loading.2)
  -- A success ends the load first; whoever awaited it has then completed, and
  -- the names that the load promised may be provided.
  cases outcome with
  | ok _ =>
      have ended : Account host (past ++ [.finish uri (.ok ())]) accepted []
          ((loader.unload uri).recordLoaded uri) := by
        have sameUris : ((loader.unload uri).recordLoaded uri).uris =
            (loader.unload uri).uris := by
          rw [uris, uris, loading_recordLoaded]
        have samePromised : ((loader.unload uri).recordLoaded uri).promised =
            (loader.unload uri).promised := by
          funext load
          rw [Loader.promised, Loader.promised, loading_recordLoaded]
        refine account.finish (.ok ()) (by rw [resolver_recordLoaded]; rfl) ?_ ?_ ?_ ?_
        · intro known member
          rcases (mem_loaded_recordLoaded _ uri known).mp member with new | old
          · exact .inr ⟨new, rfl⟩
          · exact .inl old
        · rw [sameUris, uris_unload]
        · rw [sameUris, samePromised]
          exact promised
        · rw [journal_recordLoaded]
          rfl
      have sound : ∀ name ∈ loader.promised uri, ∃ other,
          Completed host (past ++ [.finish uri (.ok ())]) other ∧
            name ∈ other.provides := by
        intro name offered
        obtain ⟨source, awaits, offers⟩ := account.promised uri goesOn name offered
        exact ⟨source, awaits.completed, offers⟩
      have final := (ended.provide sound).pass.settle
      rw [complete_ok]
      simpa [moments] using final
  | error error =>
      rw [complete_error]
      apply Account.settle
      refine account.finish (.error error) rfl ?_ ?_ ?_ ?_
      · exact fun known member => .inl member
      · simp
      · exact promised
      · simp [Loader.report, unload, Report.begins]

end Account

/-! ## The provided set only grows -/

theorem provided_start (host : ScriptHost) (loader : Loader)
    (script : ScriptDescriptor) :
    loader.resolver.provided ⊆ (loader.start host script).2.resolver.provided := by
  have grows : ∀ names : Names, loader.resolver.provided ⊆
      (loader.resolver.provide names).2.provided :=
    fun _ _ known => Resolver.mem_provided_provide.mpr (.inl known)
  refine @start_cases host loader script
    (fun started => loader.resolver.provided ⊆ started.2.resolver.provided)
    ?joins ?knows ?fetches ?executes ?fails
  case joins => exact fun _ _ _ => List.Subset.refl _
  case knows => exact fun _ _ _ _ => grows script.provides
  case fetches =>
    intro uri _ _ _
    rw [resolver_fetch]
    exact List.Subset.refl _
  case executes => exact fun _ _ _ => grows script.provides
  case fails => exact fun _ _ _ _ => List.Subset.refl _

theorem provided_run (host : ScriptHost) (loader : Loader)
    (ready : List ScriptDescriptor) :
    loader.resolver.provided ⊆ (loader.run host ready).resolver.provided := by
  apply run_induction
    (motive := fun _ other => loader.resolver.provided ⊆ other.resolver.provided) _
    (List.Subset.refl _)
  intro other script rest grown
  exact List.Subset.trans grown (provided_start host other script)

theorem provided_enroll (loader : Loader) (resources : List ScriptResource) :
    (loader.enroll resources).2.resolver.provided = loader.resolver.provided := by
  refine @enroll_induction
    (fun _ _ other => other.resolver.provided = loader.resolver.provided)
    ?_ ?_ [] [] loader rfl resources
  · intro _ _ _ _ same
    exact same
  · intro _ _ other script same
    exact (Resolver.provided_enroll other.resolver script).trans same

theorem provided_perform (host : ScriptHost) (loader : Loader) (action : Action) :
    loader.resolver.provided ⊆ (loader.perform host action).resolver.provided := by
  cases action with
  | submit resources =>
      have styled := (restyled_applyStyles loader resources).sameScripts.resolver
      have enrolled := provided_enroll (loader.applyStyles resources) resources.scripts
      rw [styled] at enrolled
      rw [← enrolled]
      unfold perform submit
      rw [resolver_settle]
      exact provided_run host _ _
  | complete uri outcome =>
      cases outcome with
      | ok _ =>
          rw [perform, complete_ok, provide_recordLoaded_unload, resolver_settle]
          apply List.Subset.trans _ (provided_run host _ _)
          rw [resolver_recordLoaded]
          exact fun _ known => Resolver.mem_provided_provide.mpr (.inl known)
      | error error =>
          rw [perform, complete_error, resolver_settle]
          exact List.Subset.refl _

/-! ## Whole runs -/

theorem Run.eq_foldl {actions : List Action} (reached : Run host actions loader) :
    loader = actions.foldl (perform host) {} := by
  induction reached with
  | start => rfl
  | submit resources _ induction =>
      rw [List.foldl_concat, ← induction]
      rfl
  | complete outcome _ _ induction =>
      rw [List.foldl_concat, ← induction]
      rfl

theorem history_append (loader : Loader) (before after : List Action) :
    loader.history host (before ++ after) =
      loader.history host before ++
        (before.foldl (perform host) loader).history host after := by
  induction before generalizing loader with
  | nil => rfl
  | cons action before induction => simp [history, induction]

theorem account_run {actions : List Action} (reached : Run host actions loader) :
    Account host (history host {} actions) (Loader.accepted actions) [] loader := by
  induction reached with
  | start => exact account_start
  | submit resources before induction =>
      rw [history_append, ← before.eq_foldl, accepted_submit]
      simpa [history] using induction.submit resources
  | complete outcome before goesOn induction =>
      rw [history_append, ← before.eq_foldl, accepted_complete]
      simpa [history] using induction.complete goesOn outcome

theorem provided_foldl (host : ScriptHost) (loader : Loader) (actions : List Action) :
    loader.resolver.provided ⊆
      (actions.foldl (perform host) loader).resolver.provided := by
  induction actions generalizing loader with
  | nil => exact List.Subset.refl _
  | cons action actions induction =>
      exact List.Subset.trans (provided_perform host loader action) (induction _)

theorem Account.descriptor_pending
    (account : Account host past accepted ready loader) :
    loader.resolver.pending.map (·.descriptor) =
      accepted.filter fun script => !loader.resolver.meets script :=
  Loader.descriptor_pending account.tracks

/-- When a script starts, it was accepted, its requirements are provided, and
each name provided comes from a script that has completed by then.  Each
accepted script has started once, or waits and requires a name that is not
provided; none does both.  The names provided only grow, within a step and from
step to step, and come from scripts that have completed.  The page is asked to
run or load what starts, in this order, and nothing else. -/
theorem perm_starts_append_pending {actions : List Action}
    (reached : Run host actions loader) :
    let history := history host {} actions
    let waiting := loader.resolver.pending.map (·.descriptor)
    (∀ before current script after,
      history = before ++ .start current script :: after →
        script ∈ Loader.accepted actions ∧
        (∀ name ∈ script.requires, name ∈ current.resolver.provided) ∧
        ∀ name ∈ current.resolver.provided,
          ∃ other, Completed host before other ∧ name ∈ other.provides) ∧
      (Loader.accepted actions).Perm (starts history ++ waiting) ∧
      (∀ script ∈ starts history, script ∉ waiting) ∧
      (∀ script ∈ waiting,
        ∃ name ∈ script.requires, name ∉ loader.resolver.provided) ∧
      (history.filterMap Moment.provided? ++
        [loader.resolver.provided]).Pairwise (· ⊆ ·) ∧
      (∀ more other, Run host (actions ++ more) other →
        loader.resolver.provided ⊆ other.resolver.provided) ∧
      (∀ name ∈ loader.resolver.provided,
        ∃ script, Completed host history script ∧ name ∈ script.provides) ∧
      loader.journal.filter Report.begins =
        history.filterMap Moment.effect? := by
  intro history waiting
  have account := account_run reached
  have shared : ((Loader.accepted actions).filter loader.resolver.meets).Perm
      (starts history) := by simpa using account.shared
  have waits : waiting = _ := account.descriptor_pending
  refine ⟨fun before current script after split =>
    account.justified before (.start current script) after split, ?_, ?_, ?_,
    account.growing, ?_, account.provided, account.journal⟩
  -- Those whose requirements are met have started, the others wait.
  · rw [waits]
    exact (List.filter_append_perm _ _).symm.trans (shared.append_right _)
  · intro script started
    have meets := (List.mem_filter.mp (shared.mem_iff.mpr started)).2
    rw [waits]
    simp [meets]
  · intro script member
    obtain ⟨entry, pending, rfl⟩ := List.mem_map.mp member
    exact exists_required_not_provided account.tracks pending
  · intro more other later
    rw [later.eq_foldl, List.foldl_append, ← reached.eq_foldl]
    exact provided_foldl host loader more

/-- Of the library and the scripts that depend on it one still waits: it requires
what the failed one would have provided. -/
theorem perm_starts_append_pending_library :
    ∃ loader, Run throwingHost libraryFirst loader ∧
      let history := history throwingHost {} libraryFirst
      let waiting := loader.resolver.pending.map (·.descriptor)
      (Loader.accepted libraryFirst).Perm (starts history ++ waiting) ∧
      (starts history).length = 4 ∧ waiting.length = 1 ∧
      ∀ name ∈ ["extra", "lib", "used"],
        ∃ script, Completed throwingHost history script ∧ name ∈ script.provides := by
  have library : Run throwingHost libraryFirst _ :=
    .submit dependentScripts
      (.complete (.ok ()) (.submit libraryScripts .start) (by decide +kernel))
  obtain ⟨_, once, _, _, _, _, completed, _⟩ := perm_starts_append_pending library
  refine ⟨_, library, once, by decide +kernel, by decide +kernel, ?_⟩
  intro name member
  apply completed
  revert name
  decide +kernel

end PageSession.Loader
