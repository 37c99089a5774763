import PageSession.Proofs.Script.Starts
import PageSession.Proofs.Text.Quoted

/-!
# Reports of a stall

Every script that waits is listed with exactly the names it lacks, and lacks at least
one.  A step reports a stall once if it ends with nothing loading and some script
waiting, and not otherwise; the report lists all names that are lacking.

Only the end of a step reports this, so what the rest of the step writes need not be
known, except that none of it is such a report.  The log has one warning for each report,
and no other line with its message; the names are known from what the warning shows.
-/

namespace PageSession.Loader

/-- The names that an entry reports to be lacking, if it reports a stall. -/
def Report.stalled? : Report → Option Names
  | .incident (.stalled names) => some names
  | _ => none

/-- The reports of a stall among some entries, in order. -/
def stalls (entries : List Report) : List Names :=
  entries.filterMap Report.stalled?

/-- The message of the log line by which a stall is reported. -/
def stallMessage : String := "scripts stalled on capabilities nobody provides"

/-- The log line of an entry, if it is written to the log. -/
def Report.line? : Report → Option LogLine
  | .incident about => some about.line
  | _ => none

/-- The log lines of some entries that report a stall, in order. -/
def stallLines (entries : List Report) : List LogLine :=
  (entries.filterMap Report.line?).filter (·.message = stallMessage)

variable {loader : Loader} {scripts : List ScriptDescriptor}

/-! ## Reports and their warnings -/

theorem stalls_append (entries others : List Report) :
    stalls (entries ++ others) = stalls entries ++ stalls others :=
  List.filterMap_append

theorem stallLines_append (entries others : List Report) :
    stallLines (entries ++ others) = stallLines entries ++ stallLines others := by
  simp [stallLines]

theorem stallLines_singleton (entry : Report) :
    stallLines [entry] = (stalls [entry]).map fun names => (Incident.stalled names).line := by
  cases entry with
  | incident about =>
      cases about <;>
        simp [stallLines, stalls, Report.line?, Report.stalled?, Incident.line, LogLine.warn,
          LogLine.error, stallMessage]
  | _ => rfl

/-- Each report of a stall is a line of the log, and no other line has its message. -/
theorem stallLines_eq_map_stalls (entries : List Report) :
    stallLines entries = (stalls entries).map fun names => (Incident.stalled names).line := by
  induction entries with
  | nil => rfl
  | cons entry entries ih =>
      rw [← List.singleton_append, stallLines_append, stalls_append, List.map_append, ih,
        stallLines_singleton]

/-! ## What the rest of a step writes -/

theorem stalls_report (loader : Loader) {entry : Report} (other : entry.stalled? = none) :
    stalls (loader.report entry).journal = stalls loader.journal := by
  have none : stalls [entry] = [] := by simp [stalls, other]
  rw [report, stalls_append, none, List.append_nil]

theorem stalls_hold (loader : Loader) :
    stalls loader.hold.journal = stalls loader.journal := by
  unfold hold
  split
  · rfl
  · exact stalls_report _ rfl

theorem Restyled.stalls_eq {other : Loader} (restyled : Restyled loader other) :
    stalls other.journal = stalls loader.journal := by
  obtain ⟨entries, journal, styles⟩ := restyled.journal
  have none : stalls entries = [] := by
    rw [stalls, List.filterMap_eq_nil_iff]
    intro entry member
    have style := styles entry member
    cases entry <;> first | rfl | contradiction
  rw [journal, stalls_append, none, List.append_nil]

theorem stalls_enroll (loader : Loader) (resources : List ScriptResource) :
    stalls (loader.enroll resources).2.journal = stalls loader.journal := by
  refine @enroll_induction
    (fun _ _ other => stalls other.journal = stalls loader.journal)
    ?_ ?_ [] [] loader rfl resources
  · intro _ _ other error same
    exact (stalls_report other rfl).trans same
  · intro _ _ _ _ same
    exact same

theorem stalls_start (host : ScriptHost) (loader : Loader) (script : ScriptDescriptor) :
    stalls (loader.start host script).2.journal = stalls loader.journal := by
  have executing : ∀ source,
      stalls (loader.executing source).journal = stalls loader.journal :=
    fun source => stalls_report _ rfl
  refine @start_cases host loader script
    (fun started => stalls started.2.journal = stalls loader.journal)
    ?joins ?knows ?fetches ?executes ?fails
  case joins => exact fun _ _ _ => rfl
  case knows => exact fun _ _ _ _ => rfl
  case fetches =>
    intro uri _ _ _
    exact (stalls_report _ rfl).trans (stalls_hold _)
  case executes => exact fun source _ _ => executing source
  case fails =>
    intro source error _ _
    exact (stalls_report _ rfl).trans (executing source)

theorem stalls_run (host : ScriptHost) (loader : Loader) (ready : List ScriptDescriptor) :
    stalls (loader.run host ready).journal = stalls loader.journal := by
  apply run_induction
    (motive := fun _ other => stalls other.journal = stalls loader.journal) _ rfl
  intro other script _ same
  exact (stalls_start host other script).trans same

/-! ## What waiting scripts lack -/

theorem unmet_eq (tracks : loader.resolver.Tracks scripts) {waiting : PendingScript}
    (member : waiting ∈ loader.resolver.pending) :
    waiting.unmet =
      waiting.descriptor.requires.filter fun name => name ∉ loader.resolver.provided := by
  rw [tracks] at member
  obtain ⟨script, _, rfl⟩ := List.mem_map.mp member
  simp [Resolver.lacking, Resolver.isProvided]

theorem unmet_ne_nil (tracks : loader.resolver.Tracks scripts) {waiting : PendingScript}
    (member : waiting ∈ loader.resolver.pending) : waiting.unmet ≠ [] := by
  obtain ⟨name, required, missing⟩ := exists_required_not_provided tracks member
  have lacked : name ∈ waiting.unmet := by
    rw [unmet_eq tracks member]
    simpa using ⟨required, missing⟩
  exact List.ne_nil_of_mem lacked

theorem not_meets_eq_decide (resolver : Resolver) (script : ScriptDescriptor) :
    (!resolver.meets script) =
      decide (∃ name ∈ script.requires, name ∉ resolver.provided) := by
  rw [Bool.eq_iff_iff, Bool.not_eq_true', ← Bool.not_eq_true, Resolver.meets_iff]
  simp

theorem mem_unmet (tracks : loader.resolver.Tracks scripts) {name : String} :
    name ∈ loader.resolver.unmet ↔
      ∃ waiting ∈ loader.resolver.pending,
        name ∈ waiting.descriptor.requires ∧ name ∉ loader.resolver.provided := by
  rw [Resolver.unmet, Names.mem_ofList, List.mem_flatMap]
  apply exists_congr
  intro waiting
  apply and_congr_right
  intro member
  rw [unmet_eq tracks member]
  simp

theorem ascending_unmet (resolver : Resolver) : resolver.unmet.Ascending :=
  Names.ascending_union List.Pairwise.nil _

/-- As no script waits without lacking a name, some name is lacking as soon as a script
waits. -/
theorem unmet_eq_nil_iff (tracks : loader.resolver.Tracks scripts) :
    loader.resolver.unmet = [] ↔ loader.resolver.pending = [] := by
  constructor
  · intro none
    rw [List.eq_nil_iff_forall_not_mem]
    intro waiting member
    obtain ⟨name, required, missing⟩ := exists_required_not_provided tracks member
    have lacked := (mem_unmet tracks).mpr ⟨waiting, member, required, missing⟩
    rw [none] at lacked
    contradiction
  · intro none
    rw [Resolver.unmet, none]
    rfl

/-! ## The end of a step -/

/-- The reports that the end of a step owes: one if nothing is loading and some script
waits. -/
def stallsOwed (loader : Loader) : List Names :=
  if loader.loading = [] ∧ loader.resolver.pending ≠ [] then [loader.resolver.unmet] else []

theorem stalls_settle (tracks : loader.resolver.Tracks scripts) :
    stalls loader.settle.journal = stalls loader.journal ++ loader.stallsOwed := by
  by_cases idle : loader.loading = []
  case neg => simp [settle, stallsOwed, idle]
  case pos =>
    -- The lock may be released first, which is written, but is no report of a stall.
    have reported : stalls (if loader.resolver.unmet.isEmpty then loader
        else loader.report (.incident (.stalled loader.resolver.unmet))).journal =
        stalls loader.journal ++ loader.stallsOwed := by
      by_cases none : loader.resolver.pending = []
      · simp [stallsOwed, (unmet_eq_nil_iff tracks).mpr none, none]
      · have lacking := (unmet_eq_nil_iff tracks).not.mpr none
        have own : stalls [.incident (.stalled loader.resolver.unmet)] =
            [loader.resolver.unmet] := rfl
        simp [stallsOwed, idle, lacking, none, report, stalls_append, own]
    unfold settle
    simp only [idle, List.isEmpty_nil, Bool.not_true, Bool.false_eq_true, if_false]
    split
    · exact (stalls_report _ rfl).trans reported
    · exact reported

/-- A step that reports no stall before it ends reports what it owes. -/
theorem stalls_step {middle : Loader} (tracks : middle.resolver.Tracks scripts)
    (same : stalls middle.journal = stalls loader.journal) :
    stalls middle.settle.journal = stalls loader.journal ++ middle.settle.stallsOwed := by
  rw [stalls_settle tracks, same]
  simp [stallsOwed]

theorem stalls_perform {host : ScriptHost} {action : Action}
    (tracks : (loader.perform host action).resolver.Tracks scripts) :
    stalls (loader.perform host action).journal =
      stalls loader.journal ++ (loader.perform host action).stallsOwed := by
  cases action with
  | submit resources =>
      have styled := (restyled_applyStyles loader resources).stalls_eq
      have enrolled := stalls_enroll (loader.applyStyles resources) resources.scripts
      apply stalls_step (by simpa [perform, submit] using tracks)
      rw [stalls_run, enrolled, styled]
  | complete uri outcome =>
      cases outcome with
      | ok _ =>
          rw [perform, complete_ok] at tracks ⊢
          apply stalls_step (by simpa using tracks)
          rw [stalls_run]
          exact congrArg stalls (journal_recordLoaded _ uri)
      | error error =>
          rw [perform, complete_error] at tracks ⊢
          apply stalls_step (by simpa using tracks)
          exact stalls_report _ rfl

/-! ## Whole runs -/

/-- The scripts that wait are, in the order of their submission, the accepted ones that
require a name not provided, each listed with exactly those names.  A step reports a
stall once if nothing is loading and some script waits at its end, and else not at all;
the report lists exactly the names that are required by a waiting script and not
provided.  With it the log gets one warning, which shows these names and no others. -/
theorem stallLines_perform_of_run {host : ScriptHost} {actions : List Action}
    (reached : Run host actions loader) :
    (∀ waiting ∈ loader.resolver.pending,
      waiting.unmet =
          waiting.descriptor.requires.filter (fun name => name ∉ loader.resolver.provided) ∧
        waiting.unmet ≠ []) ∧
    loader.resolver.pending.map (·.descriptor) =
      (Loader.accepted actions).filter (fun script =>
        decide (∃ name ∈ script.requires, name ∉ loader.resolver.provided)) ∧
    ∀ action next, Run host (actions ++ [action]) next →
      ∃ names : Names, names.Ascending ∧
        (∀ name, name ∈ names ↔ ∃ waiting ∈ next.resolver.pending,
          name ∈ waiting.descriptor.requires ∧ name ∉ next.resolver.provided) ∧
        (stalls next.journal = stalls loader.journal ++
          if next.loading = [] ∧ next.resolver.pending ≠ [] then [names] else []) ∧
        (stallLines next.journal = stallLines loader.journal ++
          if next.loading = [] ∧ next.resolver.pending ≠ [] then
            [(Incident.stalled names).line]
          else []) ∧
        (Incident.stalled names).line.level = .warn ∧
        (Incident.stalled names).line.fields = [("unmet", .bare (Text.shownSet names))] ∧
        ∀ others : Names, Text.shownSet others = Text.shownSet names → others = names := by
  have tracks := (account_run reached).tracks
  refine ⟨?_, ?_, ?_⟩
  · exact fun waiting member => ⟨unmet_eq tracks member, unmet_ne_nil tracks member⟩
  · simpa only [not_meets_eq_decide] using descriptor_pending tracks
  intro action next later
  have performed : next = loader.perform host action := by
    rw [later.eq_foldl, List.foldl_concat, ← reached.eq_foldl]
  have tracksNext := (account_run later).tracks
  have reports : stalls next.journal = stalls loader.journal ++ next.stallsOwed := by
    subst performed
    exact stalls_perform tracksNext
  refine ⟨next.resolver.unmet, ascending_unmet _, fun name => mem_unmet tracksNext, reports,
    ?_, rfl, rfl, fun others same => Text.shownSet_injective same⟩
  rw [stallLines_eq_map_stalls, reports, List.map_append, ← stallLines_eq_map_stalls,
    stallsOwed]
  split <;> rfl

/-- The end of the only load releases one of the dependent scripts, whose failure leaves
another waiting. -/
theorem stallLines_perform_of_run_dependents :
    ∃ loader next,
      Run throwingHost [.submit dependentScripts, .submit libraryScripts] loader ∧
      Run throwingHost dependentsFirst next ∧
      (loader.resolver.pending.map (·.unmet)) = [["extra", "lib"], ["used"], ["never", "used"]] ∧
      (∀ waiting ∈ loader.resolver.pending, waiting.unmet ≠ []) ∧
      stalls next.journal = stalls loader.journal ++ [["never"]] ∧
      stallLines next.journal =
        stallLines loader.journal ++ [(Incident.stalled ["never"]).line] ∧
      (Incident.stalled ["never"]).line.fields = [("unmet", .bare "\x7b\"never\"\x7d")] := by
  have before : Run throwingHost [.submit dependentScripts, .submit libraryScripts] _ :=
    .submit libraryScripts (.submit dependentScripts .start)
  have after : Run throwingHost dependentsFirst _ :=
    .complete (.ok ()) before (by decide +kernel)
  obtain ⟨lacking, _, steps⟩ := stallLines_perform_of_run before
  obtain ⟨names, ascending, listed, reported, warned, _, shown, _⟩ := steps _ _ after
  have same : names = ["never"] := by
    apply ascending.eq_of_mem_iff (List.pairwise_singleton _ _)
    intro name
    rw [listed, ← mem_unmet (account_run after).tracks]
    exact Eq.to_iff (congrArg (name ∈ ·) (by decide +kernel))
  rw [same, if_pos (by decide +kernel)] at reported warned
  rw [same] at shown
  refine ⟨_, _, before, after, by decide +kernel, fun waiting member => (lacking waiting member).2,
    reported, warned, shown.trans ?_⟩
  decide +kernel

end PageSession.Loader
