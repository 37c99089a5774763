import PageSession.Proofs.Script.Release
import PageSession.Proofs.Script.Run

/-!
# The lock of a loader

Between steps a loader holds its lock exactly while the script of some URI is
loading, and no script waits that could start.  A step takes the lock or gives
it back at most once, namely when it is held before and not after, or the other
way round.
-/

namespace PageSession.Loader

/-- Whether an entry takes the lock or gives it back. -/
def Report.gate? : Report → Option Bool
  | .lock => some true
  | .unlock => some false
  | _ => none

/-- The lock as taken and given back, in order. -/
def gates (entries : List Report) : List Bool :=
  entries.filterMap Report.gate?

/-- What a step does to the lock, which is held or not before it and after. -/
def turn (before after : Bool) : List Bool :=
  if before = after then [] else [after]

/-- The lock is held exactly while something is loading. -/
def Backed (loader : Loader) : Prop :=
  loader.holding = true ↔ loader.loading ≠ []

theorem gates_append (entries others : List Report) :
    gates (entries ++ others) = gates entries ++ gates others :=
  List.filterMap_append

theorem gates_report (loader : Loader) (entry : Report) :
    gates (loader.report entry).journal
      = gates loader.journal ++ entry.gate?.toList := by
  rw [report, gates_append]
  cases entry <;> rfl

@[simp] theorem holding_hold (loader : Loader) : loader.hold.holding = true := by
  unfold hold
  split
  · assumption
  · rfl

theorem gates_hold (loader : Loader) :
    gates loader.hold.journal = gates loader.journal ++ turn loader.holding true := by
  unfold hold
  cases held : loader.holding with
  | true => simp [turn]
  | false => exact gates_report _ .lock

theorem turn_append_turn {before : Bool} (middle after : Bool)
    (keeps : before = true → middle = true) (grows : middle = true → after = true) :
    turn before middle ++ turn middle after = turn before after := by
  cases before <;> cases middle <;> cases after <;> simp_all [turn]

theorem eq_of_turn_eq_nil {before after : Bool} (none : turn before after = []) :
    before = after := by
  cases before <;> cases after <;> simp_all [turn]

theorem gates_of_styles {entries : List Report}
    (styles : ∀ entry ∈ entries, entry.styles = true) : gates entries = [] := by
  rw [gates, List.filterMap_eq_nil_iff]
  intro entry member
  have style := styles entry member
  cases entry <;> first | rfl | contradiction

/-- Two loaders agree on the lock, and on whether anything is loading. -/
structure SameGates (loader other : Loader) : Prop where
  gates : gates other.journal = gates loader.journal
  holding : other.holding = loader.holding
  loading : other.loading = [] ↔ loader.loading = []

namespace SameGates

variable {loader middle other : Loader}

theorem refl (loader : Loader) : SameGates loader loader :=
  ⟨rfl, rfl, .rfl⟩

theorem trans (first : SameGates loader middle) (second : SameGates middle other) :
    SameGates loader other :=
  ⟨second.gates.trans first.gates, second.holding.trans first.holding,
    second.loading.trans first.loading⟩

end SameGates

theorem sameGates_report (loader : Loader) {entry : Report}
    (silent : entry.gate? = none) :
    SameGates loader (loader.report entry) where
  gates := by simp [gates_report, silent]
  holding := rfl
  loading := .rfl

theorem Restyled.sameGates {loader other : Loader} (restyled : Restyled loader other) :
    SameGates loader other := by
  obtain ⟨entries, journal, styles⟩ := restyled.journal
  refine ⟨?_, ?_, ?_⟩
  · rw [journal, gates_append, gates_of_styles styles, List.append_nil]
  · rw [restyled.rest]
  · rw [restyled.rest]

theorem sameGates_enroll (loader : Loader) (resources : List ScriptResource) :
    SameGates loader (loader.enroll resources).2 := by
  refine @enroll_induction (fun _ _ other => SameGates loader other) ?_ ?_ [] [] loader
    (.refl loader) resources
  · intro _ _ other error same
    exact same.trans (sameGates_report other rfl)
  · intro _ _ other script same
    exact same.trans ⟨rfl, rfl, .rfl⟩

/-! ## The pass over the scripts that may start -/

/-- What a pass does to the lock: it takes it if something begins to load, and
never gives it back. -/
structure Covers (loader other : Loader) : Prop where
  gates : gates other.journal
    = gates loader.journal ++ turn loader.holding other.holding
  keeps : loader.holding = true → other.holding = true
  covered : other.loading ≠ [] → other.holding = true
  grows : loader.loading ≠ [] → other.loading ≠ []
  justified : other.holding = true → loader.holding = true ∨ other.loading ≠ []

namespace Covers

variable {loader middle other : Loader}

theorem refl (covered : loader.loading ≠ [] → loader.holding = true) :
    Covers loader loader where
  gates := by simp [turn]
  keeps := id
  covered := covered
  grows := id
  justified := .inl

theorem of_sameGates (covers : Covers loader middle) (same : SameGates middle other) :
    Covers loader other where
  gates := by rw [same.gates, same.holding, covers.gates]
  keeps := by rw [same.holding]; exact covers.keeps
  covered := by rw [same.holding, ne_eq, same.loading]; exact covers.covered
  grows := by
    intro nonempty
    rw [ne_eq, same.loading]
    exact covers.grows nonempty
  justified := by rw [same.holding, ne_eq, same.loading]; exact covers.justified

theorem fetch (covers : Covers loader middle) (uri : String) (provides : Names) :
    Covers loader (middle.fetch uri provides) := by
  have loading : (middle.fetch uri provides).loading ≠ [] := by simp [Loader.fetch]
  have holding : (middle.fetch uri provides).holding = true := holding_hold _
  exact
    { gates := by
        calc
          Loader.gates (middle.fetch uri provides).journal
              = Loader.gates middle.journal ++ turn middle.holding true ++ [] := by
            rw [Loader.fetch, gates_report, gates_hold]
            rfl
          _ = Loader.gates loader.journal ++
                (turn loader.holding middle.holding ++ turn middle.holding true) := by
            rw [List.append_nil, covers.gates, List.append_assoc]
          _ = Loader.gates loader.journal ++
                turn loader.holding (middle.fetch uri provides).holding := by
            rw [turn_append_turn middle.holding true covers.keeps fun _ => rfl, holding]
      keeps := fun _ => holding
      covered := fun _ => holding
      grows := fun _ => loading
      justified := fun _ => .inr loading }

theorem run (covers : Covers loader middle) (host : ScriptHost)
    (ready : List ScriptDescriptor) : Covers loader (middle.run host ready) := by
  apply run_induction (motive := fun _ other => Covers loader other) _ covers
  intro other script rest covers
  refine @start_cases host other script (fun started => Covers loader started.2)
    ?joins ?knows ?fetches ?executes ?fails
  case joins =>
    intro uri _ _
    exact covers.of_sameGates ⟨rfl, rfl, by simp [Loader.join]⟩
  case knows =>
    intro _ _ _ _
    exact covers.of_sameGates ⟨rfl, rfl, .rfl⟩
  case fetches =>
    intro uri _ _ _
    exact covers.fetch uri _
  case executes =>
    intro source _ _
    exact covers.of_sameGates ⟨(sameGates_report _ rfl).gates, rfl, .rfl⟩
  case fails =>
    intro source error _ _
    exact covers.of_sameGates
      (@SameGates.trans _ (other.executing source) _
        ⟨(sameGates_report _ rfl).gates, rfl, .rfl⟩ (sameGates_report _ rfl))

end Covers

/-! ## Steps -/

/-- What a step does to the lock. -/
structure Turns (loader other : Loader) : Prop where
  gates : gates other.journal
    = gates loader.journal ++ turn loader.holding other.holding
  backed : other.Backed

theorem settle_of_loading {loader : Loader} (busy : loader.loading ≠ []) :
    loader.settle = loader := by
  simp [settle, busy]

/-- With nothing loading the lock is given back, if it is held. -/
theorem settle_of_idle {loader : Loader} (idle : loader.loading = []) :
    loader.settle.holding = false ∧
      gates loader.settle.journal
        = gates loader.journal ++ turn loader.holding false := by
  have silent : SameGates loader
      (if loader.resolver.unmet.isEmpty then loader
        else loader.report (.incident (.stalled loader.resolver.unmet))) := by
    split
    · exact .refl loader
    · exact sameGates_report loader rfl
  unfold settle
  simp only [idle, List.isEmpty_nil, Bool.not_true, Bool.false_eq_true, if_false]
  cases held : loader.holding with
  | true =>
      refine ⟨rfl, ?_⟩
      rw [if_pos rfl, gates_report]
      exact congrArg (· ++ [false]) silent.gates
  | false =>
      refine ⟨silent.holding.trans held, ?_⟩
      exact silent.gates.trans (List.append_nil _).symm

/-- A pass, and the end of the step.  If nothing is loading then, the pass has
left the lock alone. -/
theorem Covers.turns {loader other : Loader} (covers : Covers loader other)
    (untouched : other.loading = [] → other.holding = loader.holding) :
    Turns loader other.settle := by
  by_cases idle : other.loading = []
  case pos =>
    obtain ⟨free, gates⟩ := settle_of_idle idle
    refine ⟨?_, ?_⟩
    · rw [gates, covers.gates, free, untouched idle]
      simp [turn]
    · simp [Backed, free, idle]
  case neg =>
    rw [settle_of_loading idle]
    refine ⟨covers.gates, ?_⟩
    simp [Backed, covers.covered idle, idle]

theorem turns_submit {loader : Loader} (backed : loader.Backed) (host : ScriptHost)
    (resources : PageResources) : Turns loader (loader.submit host resources) := by
  have taken := (restyled_applyStyles loader resources).sameGates.trans
    (sameGates_enroll _ resources.scripts)
  have covers := ((Covers.refl backed.mpr).of_sameGates taken).run host
    ((loader.applyStyles resources).enroll resources.scripts).1
  apply covers.turns
  -- A pass ends no load: with none now there was none before.
  intro idle
  have wasIdle : loader.loading = [] := by
    by_contra busy
    exact covers.grows busy idle
  have free : loader.holding = false := by
    unfold Backed at backed
    simpa [wasIdle] using backed
  rw [free]
  cases flag : Loader.holding _ with
  | false => rfl
  | true =>
      rcases covers.justified flag with held | busy
      · rw [free] at held
        contradiction
      · contradiction

theorem turns_complete {loader : Loader} (backed : loader.Backed) (host : ScriptHost)
    {uri : String} (goesOn : uri ∈ loader.uris) (outcome : Except ScriptError Unit) :
    Turns loader (loader.complete host uri outcome) := by
  have held : loader.holding = true := by
    apply backed.mpr
    intro idle
    rw [uris_eq_nil.mpr idle] at goesOn
    contradiction
  have covers : Covers (loader.unload uri) (loader.unload uri) := .refl fun _ => held
  cases outcome with
  | ok _ =>
      rw [complete_ok]
      have recorded :
          SameGates (loader.unload uri) ((loader.unload uri).recordLoaded uri) := by
        unfold recordLoaded
        split <;> exact ⟨rfl, rfl, .rfl⟩
      have provided : SameGates (loader.unload uri)
          (((loader.unload uri).recordLoaded uri).provide (loader.promised uri)).2 :=
        recorded.trans ⟨rfl, rfl, .rfl⟩
      have passed := (covers.of_sameGates provided).run host
        (((loader.unload uri).recordLoaded uri).provide (loader.promised uri)).1
      have turns := passed.turns fun _ => (passed.keeps held).trans held.symm
      exact ⟨turns.gates, turns.backed⟩
  | error error =>
      rw [complete_error]
      have passed := covers.of_sameGates
        (@sameGates_report _ (.incident (.loadFailed uri error)) rfl)
      have turns := passed.turns fun _ => rfl
      exact ⟨turns.gates, turns.backed⟩

end PageSession.Loader
