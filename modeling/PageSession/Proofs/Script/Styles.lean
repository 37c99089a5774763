import PageSession.Proofs.Script.LeastFixedPoint
import Mathlib.Data.List.TakeWhile

/-!
# Styles are applied once

A page gets the stylesheets of all announcements in the order in which they are
announced first, and in the same way the inline styles that hold more than white space.
An announcement has its styles applied before any of its scripts starts, and nothing
else applies a style.

The invariant is that a loader remembers exactly the styles that stand in its journal.
Only the first part of a submission changes either.
-/

namespace PageSession

/-- Nothing is left of a text without the white space at its ends exactly if it holds
nothing else. -/
theorem Text.trim_eq_nil_iff (text : String) :
    Text.trim text.toList = [] ↔ Text.blank text = true := by
  -- A character that is not blank stops the dropping in front of it, so it is kept.
  have kept : ∀ char ∈ text.toList, Text.isBlank char = false →
      char ∈ text.toList.dropWhile Text.isBlank := by
    intro char member solid
    rw [← List.takeWhile_append_dropWhile (p := Text.isBlank) (l := text.toList),
      List.mem_append] at member
    refine member.resolve_left fun early => ?_
    rw [List.mem_takeWhile_imp early] at solid
    contradiction
  rw [Text.trim, List.reverse_eq_nil_iff, List.dropWhile_eq_nil_iff, Text.blank,
    List.all_eq_true]
  simp only [List.mem_reverse]
  constructor
  · intro blankInside char member
    by_contra solid
    rw [Bool.not_eq_true] at solid
    exact absurd (blankInside char (kept char member solid)) (by simp [solid])
  · intro blankAll char member
    exact blankAll char ((List.dropWhile_sublist _).subset member)

namespace Loader

/-! ## What is announced and what is applied -/

def Report.stylesheet? : Report → Option String
  | .stylesheet uri => some uri
  | _ => none

def Report.style? : Report → Option String
  | .style css => some css
  | _ => none

theorem Report.eq_none_of_plain {entry : Report} (plain : entry.styles = false) :
    entry.stylesheet? = none ∧ entry.style? = none := by
  cases entry with
  | stylesheet uri => contradiction
  | style css => contradiction
  | _ => exact ⟨rfl, rfl⟩

/-- The stylesheets applied so far, in order. -/
def appliedStylesheets (loader : Loader) : List String :=
  loader.journal.filterMap Report.stylesheet?

/-- The inline styles applied so far, in order. -/
def appliedStyles (loader : Loader) : List String :=
  loader.journal.filterMap Report.style?

def Action.stylesheets : Action → List String
  | .submit resources => resources.stylesheets
  | .complete _ _ => []

/-- The inline style of an announcement, if it holds more than white space. -/
def Action.styles : Action → List String
  | .submit resources =>
      resources.style.toList.filter fun css => Text.trim css.toList ≠ []
  | .complete _ _ => []

variable {host : ScriptHost} {loader other : Loader} {actions : List Action}

/-! ## The rest of a step -/

/-- A loader has gone on without applying a style. -/
structure Unstyled (loader other : Loader) : Prop where
  stylesheets : other.stylesheets = loader.stylesheets
  styles : other.styles = loader.styles
  journal : ∃ entries, other.journal = loader.journal ++ entries ∧
    ∀ entry ∈ entries, entry.styles = false

namespace Unstyled

theorem of_journal (stylesheets : other.stylesheets = loader.stylesheets)
    (styles : other.styles = loader.styles) (journal : other.journal = loader.journal) :
    Unstyled loader other :=
  ⟨stylesheets, styles, [], by simp [journal], by simp⟩

theorem refl (loader : Loader) : Unstyled loader loader :=
  of_journal rfl rfl rfl

theorem trans {middle : Loader} (first : Unstyled loader middle)
    (second : Unstyled middle other) : Unstyled loader other := by
  obtain ⟨entries, firstJournal, firstPlain⟩ := first.journal
  obtain ⟨more, secondJournal, secondPlain⟩ := second.journal
  refine ⟨second.stylesheets.trans first.stylesheets, second.styles.trans first.styles,
    entries ++ more, ?_, ?_⟩
  · rw [secondJournal, firstJournal, List.append_assoc]
  · exact List.forall_mem_append.mpr ⟨firstPlain, secondPlain⟩

theorem report {entry : Report} (unstyled : Unstyled loader other)
    (plain : entry.styles = false) : Unstyled loader (other.report entry) :=
  unstyled.trans ⟨rfl, rfl, [entry], rfl, by simpa using plain⟩

theorem hold (unstyled : Unstyled loader other) : Unstyled loader other.hold := by
  unfold Loader.hold
  split
  · exact unstyled
  · exact report (unstyled.trans (of_journal rfl rfl rfl)) rfl

theorem settle (unstyled : Unstyled loader other) : Unstyled loader other.settle := by
  unfold Loader.settle
  split
  · exact unstyled
  · have warned : Unstyled loader
        (if other.resolver.unmet.isEmpty then other
          else other.report (.incident (.stalled other.resolver.unmet))) := by
      split
      · exact unstyled
      · exact unstyled.report rfl
    simp only
    split
    · exact report (warned.trans (of_journal rfl rfl rfl)) rfl
    · exact warned

end Unstyled

theorem unstyled_start (host : ScriptHost) (loader : Loader) (script : ScriptDescriptor) :
    Unstyled loader (loader.start host script).2 := by
  have executing : ∀ source, Unstyled loader (loader.executing source) :=
    fun source => Unstyled.report (.of_journal rfl rfl rfl) rfl
  refine @start_cases host loader script (fun started => Unstyled loader started.2)
    ?joins ?knows ?fetches ?executes ?fails
  case joins => exact fun _ _ _ => .of_journal rfl rfl rfl
  case knows => exact fun _ _ _ _ => .of_journal rfl rfl rfl
  case fetches =>
    intro uri _ _ _
    exact Unstyled.report (Unstyled.hold (.of_journal rfl rfl rfl)) rfl
  case executes =>
    exact fun source _ _ => (executing source).trans (.of_journal rfl rfl rfl)
  case fails => exact fun source error _ _ => (executing source).report rfl

theorem unstyled_run (host : ScriptHost) (loader : Loader) (ready : List ScriptDescriptor) :
    Unstyled loader (loader.run host ready) := by
  apply run_induction (motive := fun _ other => Unstyled loader other) _ (.refl loader)
  intro other script _ unstyled
  exact unstyled.trans (unstyled_start host other script)

theorem unstyled_enroll (loader : Loader) (resources : List ScriptResource) :
    Unstyled loader (loader.enroll resources).2 := by
  refine @enroll_induction (fun _ _ other => Unstyled loader other)
    ?_ ?_ [] [] loader (.refl loader) resources
  · exact fun _ _ _ _ unstyled => unstyled.report rfl
  · exact fun _ _ _ _ unstyled => unstyled.trans (.of_journal rfl rfl rfl)

theorem unstyled_complete (host : ScriptHost) (loader : Loader) (uri : String)
    (outcome : Except ScriptError Unit) :
    Unstyled loader (loader.complete host uri outcome) := by
  cases outcome with
  | ok _ =>
      rw [complete_ok, provide_recordLoaded_unload]
      refine Unstyled.settle (.trans ?_ (unstyled_run host _ _))
      unfold recordLoaded
      split
      · exact .of_journal rfl rfl rfl
      · exact .of_journal rfl rfl rfl
  | error error =>
      rw [complete_error]
      exact Unstyled.settle (Unstyled.report (.of_journal rfl rfl rfl) rfl)

/-! ## The styles of an announcement -/

/-- The items of a list that were not seen before, each where it stands first. -/
def fresh (seen items : List String) : List String :=
  (items.removeAll seen).eraseDups

theorem fresh_cons_of_mem {seen items : List String} {item : String} (known : item ∈ seen) :
    fresh seen (item :: items) = fresh seen items := by
  simp [fresh, List.removeAll, known]

theorem fresh_cons_of_not_mem {seen items : List String} {item : String}
    (unknown : item ∉ seen) :
    fresh seen (item :: items) = item :: fresh (seen ++ [item]) items := by
  have rest : (items.removeAll seen).filter (!· == item) = items.removeAll (seen ++ [item]) := by
    rw [List.removeAll, List.removeAll, List.filter_filter]
    apply List.filter_congr
    intro other _
    by_cases same : other = item
    · simp [same]
    · simp [same, beq_false_of_ne same]
  rw [fresh, List.removeAll, List.filter_cons_of_pos (by simpa using unknown),
    List.eraseDups_cons, fresh, ← rest]
  rfl

/-- Those seen may be remembered once each. -/
theorem fresh_eraseDups (seen items : List String) :
    fresh seen.eraseDups items = fresh seen items := by
  simp [fresh, List.removeAll, List.mem_eraseDups]

theorem eraseDups_append_fresh (seen items : List String) :
    seen.eraseDups ++ fresh seen.eraseDups items = (seen ++ items).eraseDups := by
  rw [fresh_eraseDups, List.eraseDups_append, fresh]

/-- A list of stylesheets is applied, except those that were before. -/
theorem foldl_applyStylesheet (loader : Loader) (uris : List String) :
    uris.foldl applyStylesheet loader =
      { loader with
        stylesheets := loader.stylesheets ++ fresh loader.stylesheets uris
        journal := loader.journal ++ (fresh loader.stylesheets uris).map .stylesheet } := by
  induction uris generalizing loader with
  | nil => simp [fresh, List.removeAll]
  | cons uri uris induction =>
      rw [List.foldl_cons, induction]
      by_cases known : uri ∈ loader.stylesheets
      · simp [applyStylesheet, known, fresh_cons_of_mem known]
      · simp [applyStylesheet, known, fresh_cons_of_not_mem known, report]

theorem applyStyle_eq (loader : Loader) (css : String) :
    loader.applyStyle css =
      { loader with
        styles := loader.styles ++
          fresh loader.styles ([css].filter fun css => Text.trim css.toList ≠ [])
        journal := loader.journal ++
          (fresh loader.styles ([css].filter fun css => Text.trim css.toList ≠ [])).map
            .style } := by
  simp only [ne_eq, Text.trim_eq_nil_iff]
  cases blank : Text.blank css with
  | true => simp [applyStyle, blank, fresh, List.removeAll]
  | false =>
      by_cases known : css ∈ loader.styles
      · simp [applyStyle, blank, known, fresh, List.removeAll]
      · simp [applyStyle, blank, known, fresh, List.removeAll, report, List.eraseDups_cons]

/-- An announcement has the stylesheets applied that are new, then its inline style. -/
theorem applyStyles_eq (loader : Loader) (resources : PageResources) :
    loader.applyStyles resources =
      let sheets := fresh loader.stylesheets resources.stylesheets
      let styles := fresh loader.styles (Action.submit resources).styles
      { loader with
        stylesheets := loader.stylesheets ++ sheets
        styles := loader.styles ++ styles
        journal := loader.journal ++ (sheets.map .stylesheet ++ styles.map .style) } := by
  rw [applyStyles, foldl_applyStylesheet]
  cases style : resources.style with
  | none => simp [Action.styles, style, fresh, List.removeAll]
  | some css => simp [applyStyle_eq, Action.styles, style]

/-! ## Whole runs -/

/-- Two tests that agree on the items of a list erase the same of them. -/
theorem eraseDupsBy_congr {α : Type} {test other : α → α → Bool} {items : List α}
    (agree : ∀ item ∈ items, ∀ earlier ∈ items, test item earlier = other item earlier) :
    items.eraseDupsBy test = items.eraseDupsBy other := by
  have loop : ∀ rest kept : List α, rest ⊆ items → kept ⊆ items →
      List.eraseDupsBy.loop test rest kept = List.eraseDupsBy.loop other rest kept := by
    intro rest
    induction rest with
    | nil => exact fun _ _ _ => rfl
    | cons item rest induction =>
        intro kept within keptWithin
        obtain ⟨member, within⟩ := List.cons_subset.mp within
        have same : kept.any (test item) = kept.any (other item) := by
          rw [Bool.eq_iff_iff, List.any_eq_true, List.any_eq_true]
          apply exists_congr
          intro earlier
          apply and_congr_right
          intro earlierMember
          rw [agree item member earlier (keptWithin earlierMember)]
        rw [List.eraseDupsBy.loop.eq_2, List.eraseDupsBy.loop.eq_2, same]
        split
        · exact induction kept within keptWithin
        · exact induction _ within (List.cons_subset.mpr ⟨member, keptWithin⟩)
  exact loop items [] (List.Subset.refl _) (List.nil_subset _)

/-- What a loader remembers after some actions: the styles announced in them, and that it
has applied these. -/
structure Dressed (actions : List Action) (loader : Loader) : Prop where
  stylesheets : loader.stylesheets = (actions.flatMap Action.stylesheets).eraseDups
  styles : loader.styles = (actions.flatMap Action.styles).eraseDups
  sheetsApplied : loader.appliedStylesheets = loader.stylesheets
  stylesApplied : loader.appliedStyles = loader.styles

theorem Unstyled.filterMap_journal (unstyled : Unstyled loader other)
    {part? : Report → Option String}
    (plain : ∀ entry, entry.styles = false → part? entry = none) :
    other.journal.filterMap part? = loader.journal.filterMap part? := by
  obtain ⟨entries, journal, plainEntries⟩ := unstyled.journal
  have none : entries.filterMap part? = [] := by
    rw [List.filterMap_eq_nil_iff]
    exact fun entry member => plain entry (plainEntries entry member)
  rw [journal, List.filterMap_append, none, List.append_nil]

theorem Dressed.goOn (dressed : Dressed actions loader) (unstyled : Unstyled loader other) :
    Dressed actions other where
  stylesheets := unstyled.stylesheets.trans dressed.stylesheets
  styles := unstyled.styles.trans dressed.styles
  sheetsApplied := by
    rw [unstyled.stylesheets, ← dressed.sheetsApplied]
    exact unstyled.filterMap_journal fun _ plain => (Report.eq_none_of_plain plain).1
  stylesApplied := by
    rw [unstyled.styles, ← dressed.stylesApplied]
    exact unstyled.filterMap_journal fun _ plain => (Report.eq_none_of_plain plain).2

theorem Dressed.applyStyles (dressed : Dressed actions loader) (resources : PageResources) :
    Dressed (actions ++ [.submit resources]) (loader.applyStyles resources) := by
  rw [applyStyles_eq]
  refine ⟨?_, ?_, ?_, ?_⟩
  · rw [List.flatMap_append, List.flatMap_singleton, ← eraseDups_append_fresh,
      ← dressed.stylesheets]
    rfl
  · rw [List.flatMap_append, List.flatMap_singleton, ← eraseDups_append_fresh,
      ← dressed.styles]
  · rw [← dressed.sheetsApplied]
    simp [appliedStylesheets, List.filterMap_map, Function.comp_def, Report.stylesheet?]
  · rw [← dressed.stylesApplied]
    simp [appliedStyles, List.filterMap_map, Function.comp_def, Report.style?]

theorem unstyled_submit (host : ScriptHost) (loader : Loader) (resources : PageResources) :
    Unstyled (loader.applyStyles resources) (loader.submit host resources) :=
  ((unstyled_enroll _ resources.scripts).trans (unstyled_run host _ _)).settle

theorem dressed_run (reached : Run host actions loader) : Dressed actions loader := by
  induction reached with
  | start => exact ⟨rfl, rfl, rfl, rfl⟩
  | submit resources _ induction =>
      exact (induction.applyStyles resources).goOn (unstyled_submit host _ resources)
  | @complete actions loader uri outcome _ _ induction =>
      have same : Dressed (actions ++ [.complete uri outcome]) loader := by
        refine ⟨?_, ?_, induction.sheetsApplied, induction.stylesApplied⟩
        · simpa [Action.stylesheets] using induction.stylesheets
        · simpa [Action.styles] using induction.styles
      exact same.goOn (unstyled_complete host loader uri outcome)

/-- In every run the stylesheets applied are those announced, and the inline styles those
announced that are not blank, each where it stands first; so it is if only digests of the
inline styles are remembered, as long as no two of them share one.  A submission has its
stylesheets applied that are new, then its inline style, and whatever else it does after
that.  How stylesheets are divided among announcements makes no difference. -/
theorem stylesheets_and_styles_applied_once (reached : Run host actions loader) :
    let sheets := actions.flatMap Action.stylesheets
    let styles := actions.flatMap Action.styles
    loader.appliedStylesheets = sheets.eraseDups ∧
      loader.appliedStyles = styles.eraseDups ∧
      (∀ {Digest : Type} [DecidableEq Digest] (digest : String → Digest),
        (∀ css ∈ styles, ∀ earlier ∈ styles, digest css = digest earlier → css = earlier) →
          loader.appliedStyles =
            styles.eraseDupsBy fun css earlier => digest css = digest earlier) ∧
      (∀ resources, ∃ rest,
        (loader.submit host resources).journal = loader.journal ++
          ((fresh sheets resources.stylesheets).map .stylesheet ++
            ((fresh styles (Action.submit resources).styles).map .style ++ rest)) ∧
          ∀ entry ∈ rest, entry.styles = false) ∧
      ∀ {otherHost : ScriptHost} {otherActions : List Action} {other : Loader},
        Run otherHost otherActions other →
          otherActions.flatMap Action.stylesheets = sheets →
            other.appliedStylesheets = loader.appliedStylesheets := by
  intro sheets styles
  have dressed := dressed_run reached
  have stylesheets : loader.appliedStylesheets = sheets.eraseDups :=
    dressed.sheetsApplied.trans dressed.stylesheets
  have inlineStyles : loader.appliedStyles = styles.eraseDups :=
    dressed.stylesApplied.trans dressed.styles
  refine ⟨stylesheets, inlineStyles, ?_, ?_, ?_⟩
  · intro Digest _ digest apart
    rw [inlineStyles]
    apply eraseDupsBy_congr
    intro css member earlier earlierMember
    rw [Bool.eq_iff_iff, beq_iff_eq, decide_eq_true_iff]
    exact ⟨congrArg digest, apart css member earlier earlierMember⟩
  · intro resources
    obtain ⟨rest, journal, plain⟩ := (unstyled_submit host loader resources).journal
    refine ⟨rest, ?_, plain⟩
    rw [journal, applyStyles_eq, dressed.stylesheets, dressed.styles]
    simp only [fresh_eraseDups, List.append_assoc]
    rfl
  · intro otherHost otherActions other otherReached same
    have otherDressed := dressed_run otherReached
    rw [otherDressed.sheetsApplied, otherDressed.stylesheets, same, stylesheets]

/-- Stylesheets announced again in one announcement and in a later one, two inline styles
of which one is announced again, one of blanks, and a script whose load fails. -/
def repeatedStyles : List Action :=
  [.submit
      { stylesheets := ["a.css", "b.css", "a.css"], style := some ".x{}",
        scripts := [{ uri := some "lib.js", provides := ["lib"] }] },
    .complete "lib.js" (.error (.load "lib.js" "404")),
    .submit { stylesheets := ["c.css", "a.css"], style := some "   " },
    .submit { style := some ".body{}" },
    .submit { style := some ".x{}" }]

theorem stylesheets_and_styles_applied_once_repeated :
    ∃ loader other, Run throwingHost repeatedStyles loader ∧
      Run throwingHost [.submit { stylesheets := repeatedStyles.flatMap Action.stylesheets }]
        other ∧
      loader.appliedStylesheets = ["a.css", "b.css", "c.css"] ∧
      loader.appliedStyles = [".x{}", ".body{}"] ∧
      loader.appliedStyles = (repeatedStyles.flatMap Action.styles).eraseDupsBy
        (fun css earlier => css.length = earlier.length) ∧
      other.appliedStylesheets = loader.appliedStylesheets := by
  have repeated : Run throwingHost repeatedStyles _ :=
    .submit _ (.submit _ (.submit _ (.complete _ (.submit _ .start) (by decide +kernel))))
  have together : Run throwingHost
      [.submit { stylesheets := repeatedStyles.flatMap Action.stylesheets }] _ :=
    .submit _ .start
  obtain ⟨sheets, styles, digests, _, split⟩ := stylesheets_and_styles_applied_once repeated
  refine ⟨_, _, repeated, together, ?_, ?_, digests String.length (by decide +kernel),
    split together (by decide +kernel)⟩
  · exact sheets.trans (by decide +kernel)
  · exact styles.trans (by decide +kernel)

end Loader

end PageSession
