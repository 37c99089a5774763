import PageSession.Script.Loader

/-!
# Runs of a loader

A loader is submitted announcements, and the loads it has going come to their
end.  A run is any sequence of the two in which only loads that are going on
end.

Within a step scripts are started one after the other.  Starting one has five
possible effects, and what each of them keeps is kept by the whole step.
-/

namespace PageSession

/-- The scripts of a list of resources that are accepted, in order. -/
def ScriptDescriptor.accepted (resources : List ScriptResource) :
    List ScriptDescriptor :=
  resources.filterMap fun resource => (ofResource resource).toOption

namespace Loader

/-- One thing that happens to a loader. -/
inductive Action where
  | submit (resources : PageResources)
  | complete (uri : String) (outcome : Except ScriptError Unit)
deriving Repr

/-- The scripts that an action announces. -/
def Action.scripts : Action → List ScriptResource
  | .submit resources => resources.scripts
  | .complete _ _ => []

/-- The scripts accepted in the course of a run, in order. -/
def accepted (actions : List Action) : List ScriptDescriptor :=
  ScriptDescriptor.accepted (actions.flatMap Action.scripts)

theorem accepted_submit (actions : List Action) (resources : PageResources) :
    accepted (actions ++ [.submit resources])
      = accepted actions ++ ScriptDescriptor.accepted resources.scripts := by
  simp [accepted, ScriptDescriptor.accepted, Action.scripts]

theorem accepted_complete (actions : List Action) (uri : String)
    (outcome : Except ScriptError Unit) :
    accepted (actions ++ [.complete uri outcome]) = accepted actions := by
  simp [accepted, ScriptDescriptor.accepted, Action.scripts]

/-- The URIs whose scripts are loading. -/
def uris (loader : Loader) : List String :=
  loader.loading.map (·.uri)

/-- What a list of actions, each possible in its turn, makes of a new loader. -/
inductive Run (host : ScriptHost) : List Action → Loader → Prop
  | start : Run host [] {}
  | submit {actions : List Action} {loader : Loader}
      (resources : PageResources) (before : Run host actions loader) :
      Run host (actions ++ [.submit resources]) (loader.submit host resources)
  | complete {actions : List Action} {loader : Loader} {uri : String}
      (outcome : Except ScriptError Unit) (before : Run host actions loader)
      (goesOn : uri ∈ loader.uris) :
      Run host (actions ++ [.complete uri outcome]) (loader.complete host uri outcome)

/-! ## Projections -/

section Projections

variable (loader : Loader)

@[simp] theorem loading_report (entry : Report) :
    (loader.report entry).loading = loader.loading := rfl

@[simp] theorem loaded_report (entry : Report) :
    (loader.report entry).loaded = loader.loaded := rfl

@[simp] theorem uris_report (entry : Report) :
    (loader.report entry).uris = loader.uris := rfl

@[simp] theorem loading_hold : loader.hold.loading = loader.loading := by
  unfold hold
  split <;> rfl

@[simp] theorem loaded_hold : loader.hold.loaded = loader.loaded := by
  unfold hold
  split <;> rfl

@[simp] theorem resolver_provide (names : List String) :
    (loader.provide names).2.resolver = (loader.resolver.provide names).2 := rfl

@[simp] theorem loading_provide (names : List String) :
    (loader.provide names).2.loading = loader.loading := rfl

@[simp] theorem loaded_provide (names : List String) :
    (loader.provide names).2.loaded = loader.loaded := rfl

@[simp] theorem provide_fst (names : List String) :
    (loader.provide names).1 = (loader.resolver.provide names).1 := rfl

@[simp] theorem resolver_settle : loader.settle.resolver = loader.resolver := by
  unfold settle
  split
  · rfl
  · simp only
    split <;> split <;> rfl

@[simp] theorem loading_settle : loader.settle.loading = loader.loading := by
  unfold settle
  split
  · rfl
  · simp only
    split <;> split <;> rfl

@[simp] theorem loaded_settle : loader.settle.loaded = loader.loaded := by
  unfold settle
  split
  · rfl
  · simp only
    split <;> split <;> rfl

end Projections

/-- Two loaders agree on the scripts that wait, are loading, or were loaded. -/
structure SameScripts (loader other : Loader) : Prop where
  resolver : other.resolver = loader.resolver
  loading : other.loading = loader.loading
  loaded : other.loaded = loader.loaded

theorem sameScripts_report (loader : Loader) (entry : Report) :
    SameScripts loader (loader.report entry) :=
  ⟨rfl, rfl, rfl⟩

/-- Whether an entry applies a style. -/
def Report.styles : Report → Bool
  | .stylesheet _ | .style _ => true
  | _ => false

/-- A loader has applied some styles and done nothing else. -/
structure Restyled (loader other : Loader) : Prop where
  rest : other =
    { loader with
      stylesheets := other.stylesheets, styles := other.styles,
      journal := other.journal }
  journal : ∃ entries, other.journal = loader.journal ++ entries ∧
    ∀ entry ∈ entries, entry.styles = true

namespace Restyled

theorem refl (loader : Loader) : Restyled loader loader :=
  ⟨rfl, [], by simp, by simp⟩

theorem trans {loader middle other : Loader} (first : Restyled loader middle)
    (second : Restyled middle other) : Restyled loader other := by
  obtain ⟨entries, firstJournal, firstStyles⟩ := first.journal
  obtain ⟨others, secondJournal, secondStyles⟩ := second.journal
  refine ⟨?_, entries ++ others, ?_, ?_⟩
  · rw [second.rest, first.rest]
  · rw [secondJournal, firstJournal, List.append_assoc]
  · intro entry member
    rcases List.mem_append.mp member with member | member
    · exact firstStyles entry member
    · exact secondStyles entry member

theorem sameScripts {loader other : Loader} (restyled : Restyled loader other) :
    SameScripts loader other := by
  rw [restyled.rest]
  exact ⟨rfl, rfl, rfl⟩

end Restyled

theorem restyled_applyStylesheet (loader : Loader) (uri : String) :
    Restyled loader (loader.applyStylesheet uri) := by
  unfold applyStylesheet
  split
  · exact .refl loader
  · exact ⟨rfl, [.stylesheet uri], rfl, by simp [Report.styles]⟩

theorem restyled_applyStyle (loader : Loader) (css : String) :
    Restyled loader (loader.applyStyle css) := by
  unfold applyStyle
  split
  · exact .refl loader
  · exact ⟨rfl, [.style css], rfl, by simp [Report.styles]⟩

theorem restyled_applyStylesheets (loader : Loader) (stylesheets : List String) :
    Restyled loader (stylesheets.foldl applyStylesheet loader) := by
  induction stylesheets generalizing loader with
  | nil => exact .refl loader
  | cons uri stylesheets induction =>
      exact (restyled_applyStylesheet loader uri).trans (induction _)

theorem restyled_applyStyles (loader : Loader) (resources : PageResources) :
    Restyled loader (loader.applyStyles resources) := by
  have sheets := restyled_applyStylesheets loader resources.stylesheets
  unfold applyStyles
  simp only
  split
  · exact sheets.trans (restyled_applyStyle _ _)
  · exact sheets

theorem sameScripts_settle (loader : Loader) : SameScripts loader loader.settle :=
  ⟨by simp, by simp, by simp⟩

/-! ## The names promised by the loads going on -/

theorem any_uri_iff {loader : Loader} {uri : String} :
    loader.loading.any (·.uri == uri) = true ↔ uri ∈ loader.uris := by
  simp [uris]

theorem uris_eq_nil {loader : Loader} : loader.uris = [] ↔ loader.loading = [] := by
  simp [uris]

/-- A load going on takes on more names. -/
def join (loader : Loader) (uri : String) (provides : Names) : Loader :=
  { loader with
    loading := loader.loading.map fun script =>
      if script.uri = uri then
        { script with provides := Names.union script.provides provides }
      else script }

/-- A load begins. -/
def fetch (loader : Loader) (uri : String) (provides : Names) : Loader :=
  ({ loader with
      loading := loader.loading ++ [LoadingScript.mk uri provides] }.hold).report
    (.fetch uri)

def unload (loader : Loader) (uri : String) : Loader :=
  { loader with loading := loader.loading.filter (·.uri != uri) }

def recordLoaded (loader : Loader) (uri : String) : Loader :=
  if loader.loaded.contains uri then loader
  else { loader with loaded := loader.loaded ++ [uri] }

def executing (loader : Loader) (source : String) : Loader :=
  { loader with executions := loader.executions + 1 }.report (.execute source)

section Loads

variable (loader : Loader) (uri other : String) (provides : Names)

@[simp] theorem resolver_join :
    (loader.join uri provides).resolver = loader.resolver := rfl

@[simp] theorem loaded_join : (loader.join uri provides).loaded = loader.loaded := rfl

@[simp] theorem uris_join : (loader.join uri provides).uris = loader.uris := by
  simp only [uris, join, List.map_map]
  apply List.map_congr_left
  intro script _
  simp only [Function.comp_apply]
  split <;> rfl

@[simp] theorem resolver_fetch :
    (loader.fetch uri provides).resolver = loader.resolver := by
  simp [fetch]

@[simp] theorem loaded_fetch : (loader.fetch uri provides).loaded = loader.loaded := by
  simp [fetch]

@[simp] theorem uris_fetch :
    (loader.fetch uri provides).uris = loader.uris ++ [uri] := by
  simp [fetch, uris]

@[simp] theorem uris_unload :
    (loader.unload uri).uris = loader.uris.filter (· != uri) := by
  simp [unload, uris, List.filter_map, Function.comp_def]

@[simp] theorem resolver_recordLoaded :
    (loader.recordLoaded uri).resolver = loader.resolver := by
  unfold recordLoaded
  split <;> rfl

@[simp] theorem loading_recordLoaded :
    (loader.recordLoaded uri).loading = loader.loading := by
  unfold recordLoaded
  split <;> rfl

theorem mem_loaded_recordLoaded :
    other ∈ (loader.recordLoaded uri).loaded ↔ other = uri ∨ other ∈ loader.loaded := by
  unfold recordLoaded
  split
  · rename_i known
    rw [List.contains_iff_mem] at known
    constructor
    · exact .inr
    · rintro (equal | member)
      · exact equal ▸ known
      · exact member
  · simp [or_comm]

theorem find?_uri_of_not_mem {loader : Loader} {uri : String}
    (absent : uri ∉ loader.uris) :
    loader.loading.find? (·.uri == uri) = none := by
  rw [List.find?_eq_none]
  intro script member same
  exact absent (List.mem_map.mpr ⟨script, member, by simpa using same⟩)

theorem find?_uri_join :
    (loader.join uri provides).loading.find? (·.uri == other) =
      (loader.loading.find? (·.uri == other)).map fun script =>
        if script.uri = uri then
          { script with provides := Names.union script.provides provides }
        else script := by
  have keepsName : ((·.uri == other) ∘ fun script : LoadingScript =>
      if script.uri = uri then
        { script with provides := Names.union script.provides provides }
      else script) = (·.uri == other) := by
    funext script
    simp only [Function.comp_apply]
    split <;> rfl
  rw [join, List.find?_map, keepsName]

theorem promised_join_self {loader : Loader} {uri : String}
    (present : uri ∈ loader.uris)
    (provides : Names) :
    (loader.join uri provides).promised uri
      = Names.union (loader.promised uri) provides := by
  have found : (loader.loading.find? (·.uri == uri)).isSome := by
    rw [List.find?_isSome, ← List.any_eq_true, any_uri_iff]
    exact present
  obtain ⟨script, first⟩ := Option.isSome_iff_exists.mp found
  have named : script.uri = uri := by simpa using List.find?_some first
  simp [promised, find?_uri_join, first, named]

theorem promised_join_of_ne {loader : Loader} {uri other : String}
    (different : other ≠ uri)
    (provides : Names) :
    (loader.join uri provides).promised other = loader.promised other := by
  cases found : loader.loading.find? (·.uri == other) with
  | none => simp [promised, find?_uri_join, found]
  | some script =>
      have named : script.uri = other := by simpa using List.find?_some found
      simp [promised, find?_uri_join, found, named, different]

theorem promised_fetch_self {loader : Loader} {uri : String}
    (absent : uri ∉ loader.uris)
    (provides : Names) :
    (loader.fetch uri provides).promised uri = provides := by
  simp [promised, fetch, List.find?_append, find?_uri_of_not_mem absent]

theorem promised_fetch_of_ne {loader : Loader} {uri other : String}
    (different : other ≠ uri)
    (provides : Names) :
    (loader.fetch uri provides).promised other = loader.promised other := by
  have otherwise : (uri == other) = false := by simpa using Ne.symm different
  cases found : loader.loading.find? (·.uri == other) with
  | none => simp [promised, fetch, List.find?_append, found, otherwise]
  | some script => simp [promised, fetch, List.find?_append, found]

theorem promised_unload_of_ne {loader : Loader} {uri other : String}
    (different : other ≠ uri) :
    (loader.unload uri).promised other = loader.promised other := by
  unfold promised unload
  simp only [List.find?_filter]
  have keeps : (fun script : LoadingScript =>
      decide ((script.uri != uri) = true ∧ (script.uri == other) = true))
        = (·.uri == other) := by
    funext script
    by_cases same : script.uri = other
    · simp [same, different]
    · simp [same]
  rw [keeps]

/-! ## Starting scripts -/

/-- The five effects of starting a script: its URI is loading, was loaded, or is
fetched; or its source succeeds or fails. -/
theorem start_cases {host : ScriptHost} {loader : Loader} {script : ScriptDescriptor}
    {motive : List ScriptDescriptor × Loader → Prop}
    (joins : ∀ uri, script.source = .uri uri → uri ∈ loader.uris →
      motive ([], loader.join uri script.provides))
    (knows : ∀ uri, script.source = .uri uri → uri ∉ loader.uris →
      uri ∈ loader.loaded → motive (loader.provide script.provides))
    (fetches : ∀ uri, script.source = .uri uri → uri ∉ loader.uris →
      uri ∉ loader.loaded → motive ([], loader.fetch uri script.provides))
    (executes : ∀ source, script.source = .inline source →
      host.execute loader.executions source = .ok () →
      motive ((loader.executing source).provide script.provides))
    (fails : ∀ source error, script.source = .inline source →
      host.execute loader.executions source = .error error →
      motive ([], (loader.executing source).report
        (.incident (.executionFailed script.display error)))) :
    motive (loader.start host script) := by
  unfold start
  split
  · rename_i uri source
    unfold startUri
    split
    · rename_i present
      exact joins uri source (any_uri_iff.mp present)
    · rename_i absent
      rw [any_uri_iff] at absent
      split
      · rename_i known
        exact knows uri source absent (List.contains_iff_mem.mp known)
      · rename_i unknown
        rw [List.contains_iff_mem] at unknown
        exact fetches uri source absent unknown
  · rename_i text source
    unfold startInline
    simp only
    split
    · rename_i succeeded
      exact executes text source succeeded
    · rename_i error failed
      exact fails text error source failed

/-- A script is taken in by the resolver. -/
def enlist (loader : Loader) (script : ScriptDescriptor) : Loader :=
  { loader with resolver := (loader.resolver.enroll script).2 }

/-- What skipping a resource and taking one script in keep, taking a whole list
in keeps. -/
theorem enroll_induction
    {motive : List ScriptDescriptor → List ScriptDescriptor → Loader → Prop}
    (skips : ∀ accepted ready (loader : Loader) error, motive accepted ready loader →
      motive accepted ready (loader.report (.incident (.skipped error))))
    (enlists : ∀ accepted ready (loader : Loader) script, motive accepted ready loader →
      motive (accepted ++ [script])
        (ready ++ (loader.resolver.enroll script).1.toList) (loader.enlist script))
    {accepted ready : List ScriptDescriptor} {loader : Loader}
    (begins : motive accepted ready loader) (resources : List ScriptResource) :
    motive (accepted ++ ScriptDescriptor.accepted resources)
      (ready ++ (loader.enroll resources).1) (loader.enroll resources).2 := by
  induction resources generalizing accepted ready loader with
  | nil => simpa [enroll, ScriptDescriptor.accepted] using begins
  | cons resource resources induction =>
      unfold enroll
      cases checked : ScriptDescriptor.ofResource resource with
      | error error =>
          have rest := induction (skips accepted ready loader error begins)
          simpa [ScriptDescriptor.accepted, checked, Except.toOption] using rest
      | ok script =>
          have rest := induction (enlists accepted ready loader script begins)
          simpa [ScriptDescriptor.accepted, checked, Except.toOption, enlist] using rest

/-- What starting one script keeps, the whole pass over the scripts that may
start keeps. -/
theorem run_induction {host : ScriptHost}
    {motive : List ScriptDescriptor → Loader → Prop}
    (keeps : ∀ (loader : Loader) script rest, motive (script :: rest) loader →
      motive (rest ++ (loader.start host script).1) (loader.start host script).2)
    {loader : Loader} {ready : List ScriptDescriptor} (begins : motive ready loader) :
    motive [] (loader.run host ready) := by
  fun_induction run host loader ready with
  | case1 loader => exact begins
  | case2 loader script rest started induction =>
      exact induction (keeps loader script rest begins)

/-- Names can be provided before the end of the load is recorded. -/
theorem provide_recordLoaded_unload (names : Names) :
    ((loader.unload uri).recordLoaded uri).provide names =
      ((loader.provide names).1,
        ((loader.provide names).2.unload uri).recordLoaded uri) := by
  have sameLoaded : ((loader.provide names).2.unload uri).loaded
      = (loader.unload uri).loaded := rfl
  unfold recordLoaded
  rw [sameLoaded]
  split <;> rfl

theorem complete_ok (host : ScriptHost) (loader : Loader) (uri : String) :
    loader.complete host uri (.ok ()) =
      let provided :=
        ((loader.unload uri).recordLoaded uri).provide (loader.promised uri)
      (provided.2.run host provided.1).settle := rfl

theorem complete_error (host : ScriptHost) (loader : Loader) (uri : String)
    (error : ScriptError) :
    loader.complete host uri (.error error) =
      ((loader.unload uri).report (.incident (.loadFailed uri error))).settle := rfl

end Loads

end Loader

end PageSession
