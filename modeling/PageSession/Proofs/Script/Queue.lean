import PageSession.Proofs.Script.Starts
import Mathlib.Logic.Function.Iterate

/-!
# The queue of scripts that may start runs empty

Scripts that may start stand in a queue.  Each turn starts the first one and puts those
that it releases at the end.  A script is released at most once, since it leaves the
waiting list then; so whatever scripts require and provide, the queue is empty after as
many turns as there were scripts in it and in the waiting list, at most.

A turn and the whole working through the queue are two definitions.  That the turns lead
to the state that the working through gives is an induction on the moments of it.
-/

namespace PageSession

/-- Providing names moves scripts from the waiting list to the released ones. -/
theorem Resolver.perm_provide (resolver : Resolver) (names : List String) :
    ((resolver.provide names).1 ++
        (resolver.provide names).2.pending.map (·.descriptor)).Perm
      (resolver.pending.map (·.descriptor)) := by
  unfold provide
  split
  · simp
  · simp only
    rw [← List.map_append]
    -- What a waiting script lacks becomes less, the script stays what it is.
    have same : resolver.pending.map (·.descriptor) =
        (resolver.pending.map
          (reduce { resolver with provided := Names.union resolver.provided names })).map
            (·.descriptor) := by
      rw [List.map_map]
      rfl
    rw [same]
    exact (List.filter_append_perm _ _).map _

namespace Loader

/-- The scripts that wait, in order. -/
def waiting (loader : Loader) : List ScriptDescriptor :=
  loader.resolver.pending.map (·.descriptor)

/-- One turn: the first script of the queue starts, and those that it releases join the
queue at its end.  With an empty queue nothing happens. -/
def advance (host : ScriptHost) :
    List ScriptDescriptor × Loader → List ScriptDescriptor × Loader
  | ([], loader) => ([], loader)
  | (script :: rest, loader) =>
      let started := loader.start host script
      (rest ++ started.1, started.2)

/-- What a loader can be at any moment of a run, also within a step. -/
inductive Situation (host : ScriptHost) : Loader → Prop
  | between {actions : List Action} {loader : Loader} (reached : Run host actions loader) :
      Situation host loader
  /-- The scripts of an announcement have been taken in. -/
  | enrolled {actions : List Action} {loader : Loader} (reached : Run host actions loader)
      (resources : PageResources) :
      Situation host ((loader.applyStyles resources).enroll resources.scripts).2
  /-- The names that a load promised have been provided. -/
  | served {actions : List Action} {loader : Loader} {uri : String}
      (reached : Run host actions loader) (goesOn : uri ∈ loader.uris) :
      Situation host
        (((loader.unload uri).recordLoaded uri).provide (loader.promised uri)).2
  /-- One more script has started. -/
  | started {loader : Loader} (before : Situation host loader) (script : ScriptDescriptor) :
      Situation host (loader.start host script).2

variable {host : ScriptHost} {loader : Loader}

theorem perm_start (host : ScriptHost) (loader : Loader) (script : ScriptDescriptor) :
    ((loader.start host script).1 ++ (loader.start host script).2.waiting).Perm
      loader.waiting := by
  refine @start_cases host loader script
    (fun started => (started.1 ++ started.2.waiting).Perm loader.waiting)
    ?joins ?knows ?fetches ?executes ?fails
  case joins => exact fun _ _ _ => .refl _
  case knows => exact fun _ _ _ _ => Resolver.perm_provide loader.resolver script.provides
  case fetches =>
    intro uri _ _ _
    simp [waiting]
  case executes => exact fun _ _ _ => Resolver.perm_provide loader.resolver script.provides
  case fails => exact fun _ _ _ _ => .refl _

/-- The scripts taken from the queue, and those that wait at the end, are those that
stood in the queue or waited at the beginning. -/
theorem perm_starts_pass (host : ScriptHost) (loader : Loader)
    (ready : List ScriptDescriptor) :
    (starts (loader.pass host ready) ++ (loader.run host ready).waiting).Perm
      (ready ++ loader.waiting) := by
  fun_induction Loader.run host loader ready with
  | case1 loader =>
      rw [pass]
      exact .refl _
  | case2 loader script rest started induction =>
      have moved := (perm_start host loader script).append_left rest
      rw [← List.append_assoc] at moved
      rw [pass]
      exact (induction.trans moved).cons script

/-- The script that stands first after some turns is the one that starts next. -/
theorem head?_iterate_advance (host : ScriptHost) (loader : Loader)
    (ready : List ScriptDescriptor) (turns : Nat) :
    ((advance host)^[turns] (ready, loader)).1.head? =
      (starts (loader.pass host ready))[turns]? := by
  fun_induction Loader.run host loader ready generalizing turns with
  | case1 loader =>
      rw [Function.iterate_fixed rfl, pass]
      rfl
  | case2 loader script rest started induction =>
      rw [pass]
      cases turns with
      | zero => rfl
      | succ turns => exact induction turns

theorem iterate_advance_eq_run (host : ScriptHost) (loader : Loader)
    (ready : List ScriptDescriptor) :
    (advance host)^[(starts (loader.pass host ready)).length] (ready, loader) =
      ([], loader.run host ready) := by
  fun_induction Loader.run host loader ready with
  | case1 loader =>
      rw [pass]
      rfl
  | case2 loader script rest started induction =>
      rw [pass]
      exact induction

/-! ## Scripts that wait -/

theorem Situation.exists_tracks (situation : Situation host loader) :
    ∃ scripts, loader.resolver.Tracks scripts := by
  induction situation with
  | between reached => exact ⟨_, (account_run reached).tracks⟩
  | enrolled reached resources =>
      have styled := (account_run reached).restyle (restyled_applyStyles _ resources)
      exact ⟨_, tracks_enroll styled.tracks resources.scripts⟩
  | @served actions loader uri reached goesOn =>
      have unloaded : ((loader.unload uri).recordLoaded uri).resolver.Tracks
          (Loader.accepted actions) := by
        rw [resolver_recordLoaded]
        exact (account_run reached).tracks
      exact ⟨_, Resolver.tracks_provide unloaded _⟩
  | started _ script induction =>
      obtain ⟨scripts, tracks⟩ := induction
      exact ⟨scripts, tracks_start script tracks⟩

/-- From any state and with any scripts in the queue, some number of turns empties it: no
more than there are scripts in the queue and in the waiting list.  The scripts taken from
it and those that wait in the end are those that were in the queue and the waiting list,
and each that waits requires a name that is not provided. -/
theorem exists_iterate_advance_eq_nil (situation : Situation host loader)
    (ready : List ScriptDescriptor) :
    let final := loader.run host ready
    ∃ taken : List ScriptDescriptor,
      taken.length ≤ ready.length + loader.resolver.pending.length ∧
      (advance host)^[taken.length] (ready, loader) = ([], final) ∧
      (∀ turns, ((advance host)^[turns] (ready, loader)).1.head? = taken[turns]?) ∧
      (taken ++ final.waiting).Perm (ready ++ loader.waiting) ∧
      ∀ script ∈ final.waiting,
        ∃ name ∈ script.requires, name ∉ final.resolver.provided := by
  intro final
  have moved := perm_starts_pass host loader ready
  have bounded := moved.length_eq
  simp only [List.length_append, waiting, List.length_map] at bounded
  refine ⟨starts (loader.pass host ready), by omega,
    iterate_advance_eq_run host loader ready, head?_iterate_advance host loader ready,
    moved, ?_⟩
  intro script member
  obtain ⟨entry, pending, rfl⟩ := List.mem_map.mp member
  obtain ⟨scripts, tracks⟩ := situation.exists_tracks
  exact exists_required_not_provided (tracks_run tracks host ready) pending

/-- Two scripts that require each other and one that requires what it provides. -/
def circularScripts : PageResources where
  scripts :=
    [{ source := some "first", provides := ["x"], requires := ["y"] },
      { source := some "second", provides := ["y"], requires := ["x"] },
      { source := some "selfish", provides := ["z"], requires := ["z"] }]

/-- A script that breaks the circle, twice. -/
def impulses : List ScriptDescriptor :=
  List.replicate 2 { source := .inline "go", provides := ["x"] }

theorem exists_iterate_advance_eq_nil_circular :
    let before := submit throwingHost {} circularScripts
    let final := before.run throwingHost impulses
    Situation throwingHost before ∧ before.waiting.length = 3 ∧
      (∃ taken : List ScriptDescriptor, taken.length = 4 ∧
        (advance throwingHost)^[taken.length] (impulses, before) = ([], final)) ∧
      ∀ script ∈ final.waiting, ∃ name ∈ script.requires, name ∉ final.resolver.provided := by
  intro before final
  have situation : Situation throwingHost before := .between (.submit circularScripts .start)
  obtain ⟨taken, _, emptied, _, moved, lacking⟩ :=
    exists_iterate_advance_eq_nil situation impulses
  have stillWaits : final.waiting.length = 1 := by decide +kernel
  have waited : before.waiting.length = 3 := by decide +kernel
  have lengths := moved.length_eq
  rw [List.length_append, List.length_append, stillWaits, waited] at lengths
  exact ⟨situation, waited, ⟨taken, Nat.succ.inj lengths, emptied⟩, lacking⟩

end Loader

end PageSession
