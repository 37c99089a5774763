import PageSession.Proofs.Script.Release
import PageSession.Proofs.Script.Run

/-!
# The scripts that wait between steps

Whatever the outcomes of scripts are, the waiting list of a loader is at every
moment what the names provided leave of the scripts accepted so far.  So no
script waits that could start.
-/

namespace PageSession.Loader

variable {scripts : List ScriptDescriptor} {loader : Loader}

theorem tracks_start {host : ScriptHost} (script : ScriptDescriptor)
    (tracks : loader.resolver.Tracks scripts) :
    (loader.start host script).2.resolver.Tracks scripts := by
  refine @start_cases host loader script
    (fun started => started.2.resolver.Tracks scripts)
    ?joins ?knows ?fetches ?executes ?fails
  case joins =>
    intro uri _ _
    exact tracks
  case knows =>
    intro uri _ _ _
    exact Resolver.tracks_provide tracks script.provides
  case fetches =>
    intro uri _ _ _
    simpa using tracks
  case executes =>
    intro source _ _
    exact Resolver.tracks_provide tracks script.provides
  case fails =>
    intro source error _ _
    exact tracks

theorem tracks_run (tracks : loader.resolver.Tracks scripts) (host : ScriptHost)
    (ready : List ScriptDescriptor) :
    (loader.run host ready).resolver.Tracks scripts := by
  apply run_induction (motive := fun _ other => other.resolver.Tracks scripts) _ tracks
  intro other script _ tracks
  exact tracks_start script tracks

theorem tracks_enroll (tracks : loader.resolver.Tracks scripts)
    (resources : List ScriptResource) :
    (loader.enroll resources).2.resolver.Tracks
      (scripts ++ ScriptDescriptor.accepted resources) := by
  refine @enroll_induction (fun accepted _ other => other.resolver.Tracks accepted)
    ?_ ?_ scripts [] loader tracks resources
  · intro _ _ _ _ tracks
    exact tracks
  · intro _ _ _ script tracks
    exact Resolver.tracks_enroll tracks script

/-- A submission adds its accepted scripts to those the waiting list is of. -/
theorem tracks_submit (tracks : loader.resolver.Tracks scripts) (host : ScriptHost)
    (resources : PageResources) :
    (loader.submit host resources).resolver.Tracks
      (scripts ++ ScriptDescriptor.accepted resources.scripts) := by
  have styled : (loader.applyStyles resources).resolver.Tracks scripts := by
    rw [(restyled_applyStyles loader resources).sameScripts.resolver]
    exact tracks
  unfold submit
  rw [resolver_settle]
  exact tracks_run (tracks_enroll styled resources.scripts) host _

theorem tracks_complete (tracks : loader.resolver.Tracks scripts) (host : ScriptHost)
    (uri : String) (outcome : Except ScriptError Unit) :
    (loader.complete host uri outcome).resolver.Tracks scripts := by
  cases outcome with
  | ok _ =>
      rw [complete_ok, provide_recordLoaded_unload, resolver_settle]
      apply tracks_run
      rw [resolver_recordLoaded]
      exact Resolver.tracks_provide tracks (loader.promised uri)
  | error error =>
      rw [complete_error, resolver_settle]
      exact tracks

theorem descriptor_pending (tracks : loader.resolver.Tracks scripts) :
    loader.resolver.pending.map (·.descriptor) =
      scripts.filter fun script => !loader.resolver.meets script := by
  rw [tracks]
  simp [Resolver.awaiting, List.map_map, Function.comp_def]

/-- Every script that waits requires a name that has not been provided. -/
theorem exists_required_not_provided (tracks : loader.resolver.Tracks scripts)
    {waiting : PendingScript} (member : waiting ∈ loader.resolver.pending) :
    ∃ name ∈ waiting.descriptor.requires, name ∉ loader.resolver.provided := by
  rw [tracks] at member
  obtain ⟨script, kept, same⟩ := List.mem_map.mp member
  have lacks : loader.resolver.meets script = false := by
    simpa using (List.mem_filter.mp kept).2
  subst same
  by_contra none
  have enough : loader.resolver.meets script = true := by
    rw [Resolver.meets_iff]
    intro name required
    by_contra missing
    exact none ⟨name, required, missing⟩
  rw [enough] at lacks
  contradiction

end PageSession.Loader
