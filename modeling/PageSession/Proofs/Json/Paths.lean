import Mathlib.Data.List.Sort
import PageSession.Proofs.Json.Overlay

/-!
# What stands at a path after one value is laid over another

A value laid over another a second time changes nothing, nor does a value laid over
itself.  Along a path through objects, the result holds what the upper value states
there; where the upper value states nothing on the way, while both values still hold
objects, the result holds what the lower one does.
-/

namespace PageSession.Json

variable {key : String} {value lower upper : Value} {base members : Members}

/-! ## Objects with the same members -/

theorem mem_iff_get? (ordered : Members.Ordered members) :
    (key, value) ∈ members ↔ Members.get? key members = some value :=
  ⟨get?_of_mem ordered, mem_of_get?_eq_some⟩

/-- Objects that hold the same under every key are equal. -/
theorem eq_of_get?_eq {other : Members} (ordered : Members.Ordered members)
    (otherOrdered : Members.Ordered other)
    (same : ∀ key, Members.get? key members = Members.get? key other) : members = other := by
  let Before (first second : String × Value) : Prop := first.1 < second.1
  have : Std.Irrefl Before := ⟨fun member => String.lt_irrefl member.1⟩
  have : Std.Antisymm Before := ⟨fun _ _ before after => absurd after (String.lt_asymm before)⟩
  have ascending : ∀ {members}, Members.Ordered members → members.Pairwise Before :=
    fun ordered => List.pairwise_map.mp ordered
  apply (ascending ordered).eq_of_mem_iff (ascending otherOrdered)
  rintro ⟨key, value⟩
  rw [mem_iff_get? ordered, mem_iff_get? otherOrdered, same]

/-! ## Laying over twice -/

theorem overlay_of_plain (plain : ∀ members, upper ≠ .object members) (lower : Value) :
    lower.overlay upper = upper := by
  cases upper with
  | object members => exact absurd rfl (plain members)
  | _ => simp [Value.overlay]

/-- Over anything but an object, a value stands as it is. -/
theorem object_or_overlay_eq (lower : Value) :
    (∃ base, lower = .object base) ∨ ∀ value, lower.overlay value = value := by
  by_cases object : ∃ base, lower = .object base
  · exact .inl object
  · exact .inr (overlay_of_not_object (not_exists.mp object))

/-- A value laid over itself is that value. -/
theorem overlay_self (canonical : value.Canonical) : value.overlay value = value := by
  induction value using Value.byParts with
  | object members ih =>
      obtain ⟨ordered, parts⟩ := canonical_object.mp canonical
      rw [overlay_object]
      apply congrArg Value.object
      apply eq_of_get?_eq (ordered_overlayMembers ordered members) ordered
      intro key
      rw [get?_overlayMembers ordered]
      cases stated : Members.stated? key members with
      | none => rfl
      | some held =>
          have found := get?_of_stated? stated
          have placed := mem_of_get?_eq_some found
          rw [found]
          exact congrArg some (ih _ placed (parts _ placed))
  | _ => simp [Value.overlay]

/-- A value laid over another twice is laid over it once. -/
theorem overlay_overlay (low : lower.Canonical) (high : upper.Canonical) :
    (lower.overlay upper).overlay upper = lower.overlay upper := by
  induction upper using Value.byParts generalizing lower with
  | object members ih =>
      obtain ⟨base, rfl⟩ | alone := object_or_overlay_eq lower
      · obtain ⟨baseOrdered, baseParts⟩ := canonical_object.mp low
        obtain ⟨ordered, parts⟩ := canonical_object.mp high
        have once := ordered_overlayMembers baseOrdered members
        rw [overlay_object, overlay_object]
        apply congrArg Value.object
        apply eq_of_get?_eq (ordered_overlayMembers once members) once
        intro key
        rw [get?_overlayMembers ordered]
        cases stated : Members.stated? key members with
        | none => rfl
        | some value =>
            have placed := mem_of_get?_eq_some (get?_of_stated? stated)
            rw [get?_overlayMembers ordered, stated]
            apply congrArg some
            cases found : Members.get? key base with
            | none => exact overlay_self (parts _ placed)
            | some held =>
                have below := baseParts _ (mem_of_get?_eq_some found)
                exact ih _ placed below (parts _ placed)
      · rw [alone, overlay_self high]
  | _ => simp [Value.overlay]

/-! ## Paths -/

/-- What a value holds at a path of keys, each of them followed into an object. -/
def Value.at? : Value → List String → Option Value
  | value, [] => some value
  | value, key :: path => (value.member? key).bind fun part => part.at? path

/-- The upper value gives out on a path: where both values hold objects, as they do at
all shorter paths, it has no next member, or null for it. -/
def Value.Silent (lower upper : Value) (path : List String) : Prop :=
  ∃ before key after, path = before ++ key :: after ∧
    (∀ shorter, shorter <+: before →
      (∃ base, lower.at? shorter = some (.object base)) ∧
        ∃ members, upper.at? shorter = some (.object members)) ∧
    (upper.at? (before ++ [key]) = none ∨ upper.at? (before ++ [key]) = some .null)

theorem at?_cons_of_object (key : String) (path : List String) (members : Members) :
    (Value.object members).at? (key :: path) =
      (Members.get? key members).bind fun part => part.at? path := rfl

theorem exists_of_at?_cons {path : List String} {found : Value}
    (held : value.at? (key :: path) = some found) :
    ∃ members part, value = .object members ∧ Members.get? key members = some part ∧
      part.at? path = some found := by
  cases value with
  | object members =>
      obtain ⟨part, placed, inner⟩ := Option.bind_eq_some_iff.mp held
      exact ⟨members, part, rfl, placed, inner⟩
  | _ => cases held

theorem isNull_of_at? {path : List String} {found : Value} (held : value.at? path = some found)
    (present : found.isNull = false) : value.isNull = false := by
  cases path with
  | nil =>
      cases held
      exact present
  | cons key path =>
      obtain ⟨members, _, rfl, _, _⟩ := exists_of_at?_cons held
      rfl

/-- What is laid over a value under a key, if the upper one states something there. -/
theorem get?_overlayMembers_of_stated {part : Value} (ordered : Members.Ordered members)
    (stated : Members.stated? key members = some part) (base : Members) :
    Members.get? key (overlayMembers base members) =
      some (part.over (Members.get? key base)) := by
  rw [get?_overlayMembers ordered, stated]

/-- What the upper value states at a path stands there in the result, unless it is an
object, under which the lower value may have members too. -/
theorem at?_overlay_of_plain {path : List String} (high : upper.Canonical)
    (stated : upper.at? path = some value) (present : value.isNull = false)
    (plain : ∀ members, value ≠ .object members) :
    (lower.overlay upper).at? path = some value := by
  induction path generalizing lower upper with
  | nil =>
      cases stated
      rw [overlay_of_plain plain]
      rfl
  | cons key path ih =>
      obtain ⟨members, part, rfl, found, inner⟩ := exists_of_at?_cons stated
      obtain ⟨ordered, parts⟩ := canonical_object.mp high
      obtain ⟨base, rfl⟩ | alone := object_or_overlay_eq lower
      · have next := stated?_of_get? found (isNull_of_at? inner present)
        rw [overlay_object, at?_cons_of_object, get?_overlayMembers_of_stated ordered next]
        cases Members.get? key base with
        | none => exact inner
        | some held => exact ih (parts _ (mem_of_get?_eq_some found)) inner
      · rwa [alone]

/-- From where the upper value states nothing, the result is the lower value. -/
theorem at?_overlay_of_unstated {before : List String} (after : List String)
    (high : upper.Canonical) (low : lower.at? before = some (.object base))
    (object : upper.at? before = some (.object members))
    (unstated : Members.stated? key members = none) :
    (lower.overlay upper).at? (before ++ key :: after) = lower.at? (before ++ key :: after) := by
  induction before generalizing lower upper with
  | nil =>
      cases low
      cases object
      obtain ⟨ordered, _⟩ := canonical_object.mp high
      rw [List.nil_append, overlay_object, at?_cons_of_object, get?_overlayMembers ordered,
        unstated, at?_cons_of_object]
  | cons name before ih =>
      obtain ⟨bases, held, rfl, below, low⟩ := exists_of_at?_cons low
      obtain ⟨uppers, part, rfl, found, object⟩ := exists_of_at?_cons object
      obtain ⟨ordered, parts⟩ := canonical_object.mp high
      have next := stated?_of_get? found (isNull_of_at? object rfl)
      rw [List.cons_append, overlay_object, at?_cons_of_object,
        get?_overlayMembers_of_stated ordered next, at?_cons_of_object, below]
      exact ih (parts _ (mem_of_get?_eq_some found)) low object

theorem at?_concat_of_object {before : List String} (object : value.at? before =
    some (.object members)) : value.at? (before ++ [key]) = Members.get? key members := by
  induction before generalizing value with
  | nil =>
      cases object
      rw [List.nil_append, at?_cons_of_object]
      cases Members.get? key members <;> rfl
  | cons name before ih =>
      obtain ⟨fields, part, rfl, found, inner⟩ := exists_of_at?_cons object
      rw [List.cons_append, at?_cons_of_object, found]
      exact ih inner

theorem at?_overlay_of_silent {path : List String} (high : upper.Canonical)
    (silent : lower.Silent upper path) :
    (lower.overlay upper).at? path = lower.at? path := by
  obtain ⟨before, key, after, rfl, objects, missing⟩ := silent
  obtain ⟨⟨base, low⟩, members, object⟩ := objects before List.prefix_rfl
  apply at?_overlay_of_unstated after high low object
  rw [at?_concat_of_object object] at missing
  rcases missing with absent | null
  · simp [Members.stated?, absent]
  · simp [Members.stated?, null, Option.filter, Value.isNull]

/-- Laying over is idempotent, and goes path by path: where the upper value, followed
through objects, holds something other than null or an object, the result holds just
that, and where the upper value gives out while both still hold objects, the result
holds what the lower value does, if anything. -/
theorem overlay_idempotent_and_pathwise (lower upper : Value) (low : lower.Canonical)
    (high : upper.Canonical) :
    (lower.overlay upper).overlay upper = lower.overlay upper ∧
      lower.overlay lower = lower ∧
      ∀ path,
        (∀ value, upper.at? path = some value → value ≠ .null →
          (∀ members, value ≠ .object members) →
            (lower.overlay upper).at? path = some value) ∧
        (lower.Silent upper path → (lower.overlay upper).at? path = lower.at? path) := by
  refine ⟨overlay_overlay low high, overlay_self low, fun path => ⟨?stated, ?silent⟩⟩
  case stated =>
    intro value stated present plain
    exact at?_overlay_of_plain high stated (isNull_eq_false present) plain
  case silent => exact at?_overlay_of_silent high

/-- An object in an object, and an array. -/
def laidUnder : Value :=
  .object [("a", .object [("b", .nat 1), ("c", .nat 2)]), ("d", .array [.null])]

/-- A member that is new, one that is null and one that replaces an array. -/
def laidOver : Value :=
  .object [("a", .object [("b", .null), ("e", .bool true)]), ("d", .string "x")]

/-- What is new or replaces an array stands in the result; so does what stood under the
member that is null, or was passed over; and under an array there was nothing. -/
theorem overlay_idempotent_and_pathwise_nested :
    (laidUnder.overlay laidOver).overlay laidOver = laidUnder.overlay laidOver ∧
      laidUnder.overlay laidUnder = laidUnder ∧
      (laidUnder.overlay laidOver).at? ["a", "e"] = some (.bool true) ∧
      (laidUnder.overlay laidOver).at? ["d"] = some (.string "x") ∧
      (laidUnder.overlay laidOver).at? ["a", "b"] = some (.nat 1) ∧
      (laidUnder.overlay laidOver).at? ["a", "c"] = some (.nat 2) ∧
      (laidUnder.overlay laidOver).at? ["f", "g"] = none := by
  have low : laidUnder.Canonical := by decide
  have high : laidOver.Canonical := by decide
  obtain ⟨twice, itself, along⟩ := overlay_idempotent_and_pathwise laidUnder laidOver low high
  -- Both values hold objects at every path up to the one that is given.
  have outer : ∀ shorter, shorter <+: ([] : List String) →
      (∃ base, laidUnder.at? shorter = some (.object base)) ∧
        ∃ members, laidOver.at? shorter = some (.object members) := by
    intro shorter beginning
    obtain rfl := List.prefix_nil.mp beginning
    exact ⟨⟨_, rfl⟩, _, rfl⟩
  have inner : ∀ shorter, shorter <+: ["a"] →
      (∃ base, laidUnder.at? shorter = some (.object base)) ∧
        ∃ members, laidOver.at? shorter = some (.object members) := by
    intro shorter beginning
    obtain rfl | ⟨rest, rfl, later⟩ := List.prefix_cons_iff.mp beginning
    · exact outer [] List.prefix_rfl
    · obtain rfl := List.prefix_nil.mp later
      exact ⟨⟨_, rfl⟩, _, rfl⟩
  refine ⟨twice, itself, ?_, ?_, ?_, ?_, ?_⟩
  · exact (along ["a", "e"]).1 _ rfl nofun nofun
  · exact (along ["d"]).1 _ rfl nofun nofun
  · exact (along ["a", "b"]).2 ⟨["a"], "b", [], rfl, inner, .inr rfl⟩
  · exact (along ["a", "c"]).2 ⟨["a"], "c", [], rfl, inner, .inl rfl⟩
  · exact (along ["f", "g"]).2 ⟨[], "f", ["g"], rfl, outer, .inl rfl⟩

end PageSession.Json
