import PageSession.Script.Resolver
import Mathlib.Data.List.Sort
import Mathlib.Data.String.Basic

/-!
# The scripts that wait are determined by the names provided

At every moment the waiting list is what the names provided so far leave of the
scripts taken in: those that lack a name, in their order, each with exactly the
names it lacks.  Taking a script in and providing names both keep this, and the
scripts released are those that lacked a name before and lack none now.
-/

namespace PageSession

/-! ## Sets of names -/

namespace Names

/-- The list of a set is in strictly ascending order. -/
def Ascending (set : Names) : Prop :=
  set.Pairwise (· < ·)

theorem ascending_insert {name : String} {set : Names} (ascending : Ascending set) :
    Ascending (insert name set) := by
  induction set with
  | nil => exact List.pairwise_singleton _ _
  | cons head rest induction =>
      obtain ⟨above, sorted⟩ := List.pairwise_cons.mp ascending
      unfold insert
      split
      · exact ascending
      · rename_i different
        split
        · rename_i below
          refine List.pairwise_cons.mpr ⟨?_, ascending⟩
          intro other member
          rcases List.mem_cons.mp member with equal | member
          · exact equal ▸ below
          · exact below.trans (above other member)
        · rename_i notBelow
          refine List.pairwise_cons.mpr ⟨?_, induction sorted⟩
          intro other member
          rcases mem_insert.mp member with equal | member
          · rw [equal]
            exact lt_of_le_of_ne (not_lt.mp notBelow) (Ne.symm different)
          · exact above other member

theorem ascending_union {set : Names} (ascending : Ascending set)
    (names : List String) :
    Ascending (union set names) := by
  induction names generalizing set with
  | nil => exact ascending
  | cons name names induction =>
      exact induction (ascending_insert ascending)

/-- Two sets with the same names are the same list. -/
theorem Ascending.eq_of_mem_iff {set other : Names} (ascending : Ascending set)
    (otherAscending : Ascending other)
    (same : ∀ name, name ∈ set ↔ name ∈ other) :
    set = other :=
  List.Pairwise.eq_of_mem_iff ascending otherAscending same

end Names

/-! ## The waiting list -/

namespace Resolver

/-- Whether every name that a script requires has been provided. -/
def meets (resolver : Resolver) (script : ScriptDescriptor) : Bool :=
  script.requires.all resolver.isProvided

/-- The scripts of a list that lack a name, each with the names it lacks. -/
def awaiting (resolver : Resolver) (scripts : List ScriptDescriptor) :
    List PendingScript :=
  (scripts.filter fun script => !resolver.meets script).map fun script =>
    { descriptor := script, unmet := resolver.lacking script.requires }

/-- The waiting list is what the names provided leave of the scripts taken in. -/
def Tracks (resolver : Resolver) (scripts : List ScriptDescriptor) : Prop :=
  resolver.pending = resolver.awaiting scripts

theorem isProvided_iff {resolver : Resolver} {name : String} :
    resolver.isProvided name = true ↔ name ∈ resolver.provided := by
  simp [isProvided]

theorem meets_iff {resolver : Resolver} {script : ScriptDescriptor} :
    resolver.meets script = true ↔
      ∀ name ∈ script.requires, name ∈ resolver.provided := by
  simp [meets, isProvided]

theorem isEmpty_lacking (resolver : Resolver) (script : ScriptDescriptor) :
    (resolver.lacking script.requires).isEmpty = resolver.meets script := by
  rw [Bool.eq_iff_iff, meets_iff]
  simp [lacking, isProvided]

theorem tracks_start : Tracks {} [] :=
  rfl

@[simp] theorem provided_enroll (resolver : Resolver) (script : ScriptDescriptor) :
    (resolver.enroll script).2.provided = resolver.provided := by
  unfold enroll
  simp only
  split <;> rfl

/-- A script taken in starts exactly if it lacks nothing. -/
theorem enroll_fst (resolver : Resolver) (script : ScriptDescriptor) :
    (resolver.enroll script).1
      = if resolver.meets script then some script else none := by
  unfold enroll
  simp only [isEmpty_lacking]
  split <;> rfl

theorem lacking_congr {resolver other : Resolver}
    (same : other.provided = resolver.provided) (names : Names) :
    other.lacking names = resolver.lacking names := by
  simp [lacking, isProvided, same]

theorem meets_congr {resolver other : Resolver}
    (same : other.provided = resolver.provided) (script : ScriptDescriptor) :
    other.meets script = resolver.meets script := by
  rw [← isEmpty_lacking, ← isEmpty_lacking, lacking_congr same]

theorem awaiting_congr {resolver other : Resolver}
    (same : other.provided = resolver.provided) (scripts : List ScriptDescriptor) :
    other.awaiting scripts = resolver.awaiting scripts := by
  simp only [awaiting, meets_congr same, lacking_congr same]

theorem tracks_enroll {resolver : Resolver} {scripts : List ScriptDescriptor}
    (tracks : resolver.Tracks scripts) (script : ScriptDescriptor) :
    (resolver.enroll script).2.Tracks (scripts ++ [script]) := by
  unfold Tracks
  rw [awaiting_congr (provided_enroll resolver script)]
  unfold Tracks at tracks
  cases enough : resolver.meets script with
  | true =>
      simp [enroll, isEmpty_lacking, enough, tracks, awaiting]
  | false =>
      simp [enroll, isEmpty_lacking, enough, tracks, awaiting]

/-! ## Providing names -/

section Provide

variable {resolver grown : Resolver} {scripts : List ScriptDescriptor}

theorem meets_of_subset
    (grows : ∀ name ∈ resolver.provided, name ∈ grown.provided)
    {script : ScriptDescriptor} (enough : resolver.meets script = true) :
    grown.meets script = true := by
  rw [meets_iff] at enough ⊢
  intro name required
  exact grows name (enough name required)

/-- What a larger set lacks of the names that a smaller one lacks is what it
lacks of all of them. -/
theorem lacking_lacking
    (grows : ∀ name ∈ resolver.provided, name ∈ grown.provided) (names : Names) :
    grown.lacking (resolver.lacking names) = grown.lacking names := by
  unfold lacking
  rw [List.filter_filter]
  apply List.filter_congr
  intro name _
  cases known : resolver.isProvided name with
  | false => simp
  | true =>
      have still := isProvided_iff.mpr (grows name (isProvided_iff.mp known))
      simp [still]

/-- The waiting scripts that lack a name are also those left of them once more
names are provided. -/
theorem reduce_awaiting
    (grows : ∀ name ∈ resolver.provided, name ∈ grown.provided)
    (scripts : List ScriptDescriptor) :
    (resolver.awaiting scripts).map grown.reduce =
      (scripts.filter fun script => !resolver.meets script).map fun script =>
        { descriptor := script, unmet := grown.lacking script.requires } := by
  simp only [awaiting, List.map_map]
  apply List.map_congr_left
  intro script _
  simp [reduce, lacking_lacking grows]

theorem filter_reduce_awaiting
    (grows : ∀ name ∈ resolver.provided, name ∈ grown.provided) :
    ((resolver.awaiting scripts).map grown.reduce).filter (!·.unmet.isEmpty)
      = grown.awaiting scripts := by
  rw [reduce_awaiting grows, List.filter_map, List.filter_filter]
  unfold awaiting
  congr 1
  apply List.filter_congr
  intro script _
  simp only [Function.comp_apply, isEmpty_lacking]
  cases enough : resolver.meets script with
  | false => simp
  | true => simp [meets_of_subset grows enough]

theorem released_awaiting
    (grows : ∀ name ∈ resolver.provided, name ∈ grown.provided) :
    (((resolver.awaiting scripts).map grown.reduce).filter
        (·.unmet.isEmpty)).map (·.descriptor)
      = scripts.filter fun script =>
          grown.meets script && !resolver.meets script := by
  rw [reduce_awaiting grows, List.filter_map, List.filter_filter, List.map_map]
  simp only [Function.comp_def, isEmpty_lacking, List.map_id']

theorem mem_provided_provide {names : List String} {name : String} :
    name ∈ (resolver.provide names).2.provided ↔
      name ∈ resolver.provided ∨ name ∈ names := by
  unfold provide
  split
  · rename_i known
    simp only [List.all_eq_true, isProvided_iff] at known
    constructor
    · exact .inl
    · rintro (old | new)
      · exact old
      · exact known name new
  · exact Names.mem_union

theorem ascending_provide (ascending : Names.Ascending resolver.provided)
    (names : List String) :
    Names.Ascending (resolver.provide names).2.provided := by
  unfold provide
  split
  · exact ascending
  · exact Names.ascending_union ascending names

theorem tracks_provide (tracks : resolver.Tracks scripts) (names : List String) :
    (resolver.provide names).2.Tracks scripts := by
  unfold provide
  split
  · exact tracks
  · unfold Tracks at tracks ⊢
    simp only [tracks]
    rw [filter_reduce_awaiting fun name known => Names.mem_union.mpr (.inl known)]
    exact awaiting_congr rfl scripts

/-- The scripts released are those that lacked a name and lack none now. -/
theorem provide_fst (tracks : resolver.Tracks scripts) (names : List String) :
    (resolver.provide names).1
      = scripts.filter fun script =>
          (resolver.provide names).2.meets script && !resolver.meets script := by
  unfold provide
  split
  · simp
  · unfold Tracks at tracks
    simp only [tracks]
    rw [released_awaiting fun name known => Names.mem_union.mpr (.inl known)]
    apply List.filter_congr
    intro script _
    exact congrArg (· && !resolver.meets script) (meets_congr rfl script)

theorem mem_provide_fst (tracks : resolver.Tracks scripts) {names : List String}
    {script : ScriptDescriptor} :
    script ∈ (resolver.provide names).1 ↔
      script ∈ scripts ∧ (resolver.provide names).2.meets script = true ∧
        resolver.meets script = false := by
  rw [provide_fst tracks, List.mem_filter]
  simp

end Provide

end Resolver

end PageSession
