import PageSession.Proofs.Script.Backpressure
import Mathlib.Data.List.Chain

/-!
# The lock of a loader alternates

In every run the loader takes its lock and gives it back by turns, beginning
with the lock.  Between steps the lock is held exactly while the script of some
URI is loading, and no load ever begins without it.
-/

namespace PageSession.Loader

/-- Whether the lock is held after some entries. -/
def locked (entries : List Report) : Bool :=
  (gates entries).getLastD false

/-- What the journal of a loader says of its lock. -/
structure Alternates (entries : List Report) (holding : Bool) : Prop where
  turns : (false :: gates entries).IsChain (· ≠ ·)
  holds : locked entries = holding
  guarded : ∀ before uri, before ++ [.fetch uri] <+: entries → locked before = true

namespace Alternates

variable {entries : List Report} {entry : Report} {holding : Bool}

theorem start : Alternates [] false where
  turns := .singleton false
  holds := rfl
  guarded := by simp

theorem guarded_concat (alternates : Alternates entries holding)
    (covered : ∀ uri, entry = .fetch uri → holding = true)
    (before : List Report) (uri : String)
    (begins : before ++ [.fetch uri] <+: entries ++ [entry]) :
    locked before = true := by
  rcases List.prefix_concat_iff.mp begins with last | earlier
  · obtain ⟨rfl, same⟩ := List.append_inj' last rfl
    rw [alternates.holds]
    exact covered uri (List.singleton_inj.mp same).symm
  · exact alternates.guarded before uri earlier

/-- An entry that leaves the lock alone. -/
theorem silent (alternates : Alternates entries holding) (free : entry.gate? = none)
    (covered : ∀ uri, entry = .fetch uri → holding = true) :
    Alternates (entries ++ [entry]) holding := by
  have same : gates (entries ++ [entry]) = gates entries := by
    simp [gates, free]
  refine ⟨?_, ?_, alternates.guarded_concat covered⟩
  · rw [same]
    exact alternates.turns
  · rw [locked, same]
    exact alternates.holds

/-- An entry that takes the lock while it is free, or gives it back while it is
held. -/
theorem gate (alternates : Alternates entries holding)
    (turns : entry.gate? = some (!holding)) :
    Alternates (entries ++ [entry]) (!holding) := by
  have longer : gates (entries ++ [entry]) = gates entries ++ [!holding] := by
    simp [gates, List.filterMap_cons, turns]
  have last : (false :: gates entries).getLast? = some holding := by
    rw [← alternates.holds, locked, List.getLast?_cons, List.getLastD_eq_getLast?]
  refine ⟨?_, ?_, ?_⟩
  · rw [longer, ← List.cons_append, List.isChain_append]
    refine ⟨alternates.turns, .singleton _, ?_⟩
    intro before member after found
    rw [last, Option.mem_some] at member
    rw [List.head?_singleton, Option.mem_some] at found
    subst member found
    simp
  · rw [locked, longer]
    simp
  · apply alternates.guarded_concat
    intro uri fetches
    rw [fetches] at turns
    contradiction

theorem styles {others : List Report} (alternates : Alternates entries holding)
    (styled : ∀ entry ∈ others, entry.styles = true) :
    Alternates (entries ++ others) holding := by
  induction others generalizing entries with
  | nil => simpa using alternates
  | cons entry others ih =>
      rw [List.forall_mem_cons] at styled
      rw [List.append_cons]
      apply ih _ styled.2
      apply alternates.silent
      · cases entry <;> simp_all [Report.styles, Report.gate?]
      · intro uri fetches
        simp [fetches, Report.styles] at styled

end Alternates

/-- The journal agrees with the loader about the lock. -/
def Alternating (loader : Loader) : Prop :=
  Alternates loader.journal loader.holding

variable {loader : Loader}

namespace Alternating

theorem report (alternating : loader.Alternating) {entry : Report}
    (free : entry.gate? = none)
    (covered : ∀ uri, entry = .fetch uri → loader.holding = true) :
    (loader.report entry).Alternating :=
  alternating.silent free covered

theorem hold (alternating : loader.Alternating) : loader.hold.Alternating := by
  unfold Loader.hold
  cases held : loader.holding with
  | true =>
      rw [if_pos rfl]
      exact alternating
  | false =>
      rw [if_neg (by simp)]
      have free : Alternates loader.journal false := held ▸ alternating
      exact free.gate rfl

theorem fetch (alternating : loader.Alternating) (uri : String) (provides : Names) :
    (loader.fetch uri provides).Alternating := by
  have held : Alternating
      { loader with loading := loader.loading ++ [LoadingScript.mk uri provides] }.hold :=
    hold alternating
  exact held.report rfl fun _ _ => holding_hold _

theorem start (alternating : loader.Alternating) (host : ScriptHost)
    (script : ScriptDescriptor) : (loader.start host script).2.Alternating := by
  refine @start_cases host loader script (fun started => started.2.Alternating)
    ?joins ?knows ?fetches ?executes ?fails
  case joins => exact fun _ _ _ => alternating
  case knows => exact fun _ _ _ _ => alternating
  case fetches => exact fun uri _ _ _ => alternating.fetch uri _
  case executes =>
    intro source _ _
    exact alternating.silent rfl (by simp)
  case fails =>
    intro source error _ _
    have executed : (loader.executing source).Alternating :=
      alternating.silent rfl (by simp)
    exact executed.report rfl (by simp)

theorem run (alternating : loader.Alternating) (host : ScriptHost)
    (ready : List ScriptDescriptor) : (loader.run host ready).Alternating := by
  apply run_induction (motive := fun _ other => other.Alternating) _ alternating
  intro other script _ alternating
  exact alternating.start host script

theorem enroll (alternating : loader.Alternating) (resources : List ScriptResource) :
    (loader.enroll resources).2.Alternating := by
  refine @enroll_induction (fun _ _ other => other.Alternating) ?_ ?_ [] [] loader
    alternating resources
  · intro _ _ other error alternating
    exact alternating.report rfl (by simp)
  · exact fun _ _ _ _ alternating => alternating

theorem restyle {other : Loader} (alternating : loader.Alternating)
    (restyled : Restyled loader other) : other.Alternating := by
  obtain ⟨entries, journal, styled⟩ := restyled.journal
  have holding : other.holding = loader.holding := by rw [restyled.rest]
  unfold Alternating
  rw [journal, holding]
  exact alternating.styles styled

/-- What is reported of scripts that cannot go on leaves the lock alone. -/
theorem stall (alternating : loader.Alternating) :
    (if loader.resolver.unmet.isEmpty then loader
      else loader.report (.incident (.stalled loader.resolver.unmet))).Alternating := by
  split
  · exact alternating
  · exact alternating.report rfl (by simp)

theorem settle (alternating : loader.Alternating) : loader.settle.Alternating := by
  unfold Loader.settle
  by_cases idle : loader.loading.isEmpty
  case neg => simpa [idle] using alternating
  case pos =>
    have reported := alternating.stall
    simp only [idle, Bool.not_true, Bool.false_eq_true, if_false]
    cases held : loader.holding with
    | false => exact reported
    | true =>
        rw [if_pos rfl]
        have holding : (if loader.resolver.unmet.isEmpty then loader
            else loader.report (.incident (.stalled loader.resolver.unmet))).holding
              = true := by
          split <;> exact held
        unfold Alternating at reported
        rw [holding] at reported
        exact reported.gate rfl

theorem submit (alternating : loader.Alternating) (host : ScriptHost)
    (resources : PageResources) : (loader.submit host resources).Alternating := by
  have styled := alternating.restyle (restyled_applyStyles loader resources)
  exact ((styled.enroll resources.scripts).run host _).settle

theorem complete (alternating : loader.Alternating) (host : ScriptHost) (uri : String)
    (outcome : Except ScriptError Unit) :
    (loader.complete host uri outcome).Alternating := by
  have unloaded : (loader.unload uri).Alternating := alternating
  cases outcome with
  | ok _ =>
      rw [complete_ok]
      have recorded : ((loader.unload uri).recordLoaded uri).Alternating := by
        unfold recordLoaded
        split <;> exact unloaded
      apply settle
      apply run
      exact recorded
  | error error =>
      rw [complete_error]
      apply settle
      exact unloaded.report rfl (by simp)

end Alternating

/-! ## Whole runs -/

theorem alternating_run {host : ScriptHost} {actions : List Action}
    (reached : Run host actions loader) : loader.Alternating := by
  induction reached with
  | start => exact Alternates.start
  | submit resources _ ih => exact ih.submit host resources
  | complete outcome _ _ ih => exact ih.complete host _ outcome

theorem backed_run {host : ScriptHost} {actions : List Action}
    (reached : Run host actions loader) : loader.Backed := by
  induction reached with
  | start => simp [Backed]
  | submit resources _ ih => exact (turns_submit ih host resources).backed
  | complete outcome _ goesOn ih => exact (turns_complete ih host goesOn outcome).backed

/-- The lock is taken and given back by turns, beginning with the lock.  After
every step it is held exactly while something is loading, so it is held already
when a submission returns that leaves a URI loading.  Whenever a load begins, the
lock is held. -/
theorem isChain_gates {host : ScriptHost} {actions : List Action}
    (reached : Run host actions loader) :
    (false :: gates loader.journal).IsChain (· ≠ ·) ∧
      (locked loader.journal = true ↔ loader.loading ≠ []) ∧
      (∀ resources,
        locked (loader.submit host resources).journal = true ↔
          (loader.submit host resources).loading ≠ []) ∧
      ∀ before uri, before ++ [.fetch uri] <+: loader.journal →
        locked before = true := by
  have alternating := alternating_run reached
  refine ⟨alternating.turns, ?_, ?_, alternating.guarded⟩
  · rw [alternating.holds]
    exact backed_run reached
  · intro resources
    have submitted := Run.submit resources reached
    rw [(alternating_run submitted).holds]
    exact backed_run submitted

/-- A load that ends and releases another keeps the lock.  The second one fails,
which gives the lock back, and is tried again. -/
theorem isChain_gates_retried :
    let host : ScriptHost := { execute := fun _ _ => .ok () }
    let chained : PageResources :=
      { scripts := [{ uri := some "a.js", provides := ["a"] },
          { uri := some "b.js", requires := ["a"] }] }
    let again : PageResources := { scripts := [{ uri := some "b.js" }] }
    ∃ loader,
      Run host [.submit chained, .complete "a.js" (.ok ()),
        .complete "b.js" (.error (.timeout "b.js" 1)), .submit again] loader ∧
      loader.uris = ["b.js"] ∧ gates loader.journal = [true, false, true] ∧
      (false :: gates loader.journal).IsChain (· ≠ ·) ∧
      locked loader.journal = true := by
  intro host chained again
  have submitted := Run.submit chained (Run.start : Run host [] {})
  have first := Run.complete (.ok ()) submitted
    (show "a.js" ∈ (({} : Loader).submit host chained).uris by decide +kernel)
  have second := Run.complete (.error (.timeout "b.js" 1)) first
    (show "b.js" ∈ ((({} : Loader).submit host chained).complete host "a.js" (.ok ())).uris by
      decide +kernel)
  have reached := Run.submit again second
  obtain ⟨turns, held, _⟩ := isChain_gates reached
  exact ⟨_, reached, by decide +kernel, by decide +kernel, turns,
    held.mpr (by decide +kernel)⟩

end PageSession.Loader
