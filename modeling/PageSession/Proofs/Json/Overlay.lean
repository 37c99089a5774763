import PageSession.Json.Merge
import PageSession.Proofs.Json.Reading

/-!
# What laying one object over another leaves under a key

Under a key of the upper object stands its value, laid over the one below, unless
it is null; under every other key stands what the lower object has.  No value of
the lower object is touched otherwise.
-/

namespace PageSession.Json

variable {key other : String} {value : Value} {base upper members : Members}

/-! ## Looking up a key -/

@[simp] theorem get?_insert_self (key : String) (value : Value) (members : Members) :
    Members.get? key (Members.insert key value members) = some value := by
  induction members with
  | nil => simp [Members.insert, Members.get?]
  | cons member members ih =>
      obtain ⟨name, held⟩ := member
      by_cases same : key = name
      · simp [Members.insert, Members.get?, same]
      · by_cases earlier : key < name
        · simp [Members.insert, Members.get?, same, earlier]
        · simp [Members.insert, Members.get?, same, Ne.symm same, earlier, ih]

theorem get?_insert_of_ne (different : other ≠ key) (value : Value) (members : Members) :
    Members.get? other (Members.insert key value members) = Members.get? other members := by
  induction members with
  | nil => simp [Members.insert, Members.get?, Ne.symm different]
  | cons member members ih =>
      obtain ⟨name, held⟩ := member
      by_cases same : key = name
      · subst same
        simp [Members.insert, Members.get?, Ne.symm different]
      · by_cases earlier : key < name
        · simp [Members.insert, Members.get?, same, earlier, Ne.symm different]
        · simp [Members.insert, Members.get?, same, earlier, ih]

theorem get?_eq_none_of_forall_lt (behind : ∀ member ∈ members, key < member.1) :
    Members.get? key members = none := by
  cases found : Members.get? key members with
  | none => rfl
  | some value =>
      have later := behind _ (mem_of_get?_eq_some found)
      exact absurd later (String.lt_irrefl key)

theorem get?_of_mem (ordered : Members.Ordered members) (placed : (key, value) ∈ members) :
    Members.get? key members = some value := by
  induction members with
  | nil => simp at placed
  | cons member members ih =>
      obtain ⟨name, held⟩ := member
      obtain ⟨before, rest⟩ := ordered_cons.mp ordered
      rcases List.mem_cons.mp placed with first | later
      · cases first
        simp [Members.get?]
      · have different : name ≠ key := by
          rintro rfl
          exact String.lt_irrefl _ (before _ later)
        simp [Members.get?, different, ih rest later]

theorem ordered_ofList (pairs : List (String × Value)) :
    Members.Ordered (Members.ofList pairs) := by
  have grown : ∀ base, Members.Ordered base →
      Members.Ordered (pairs.foldl (fun members pair => Members.insert pair.1 pair.2 members)
        base) := by
    induction pairs with
    | nil => exact fun _ ordered => ordered
    | cons pair pairs ih => exact fun _ ordered => ih _ (ordered_insert ordered _ _)
  exact grown [] List.Pairwise.nil

theorem forall_mem_iff (property : String → Value → Prop)
    (ordered : Members.Ordered members) :
    (∀ member ∈ members, property member.1 member.2) ↔
      ∀ key value, Members.get? key members = some value → property key value := by
  constructor
  · intro all key value found
    exact all _ (mem_of_get?_eq_some found)
  · rintro all ⟨key, value⟩ placed
    exact all key value (get?_of_mem ordered placed)

/-! ## Laying over -/

/-- A value laid over what stands in its place, if anything does. -/
def Value.over (value : Value) (held : Option Value) : Value :=
  match held with
  | some lower => lower.overlay value
  | none => value

theorem isNull_eq_false (present : value ≠ .null) : value.isNull = false := by
  cases value with
  | null => exact absurd rfl present
  | _ => rfl

/-- The value that an object states under a key; null states nothing. -/
def Members.stated? (key : String) (members : Members) : Option Value :=
  (Members.get? key members).filter (!·.isNull)

theorem get?_of_stated? (stated : Members.stated? key members = some value) :
    Members.get? key members = some value :=
  (Option.filter_eq_some_iff.mp stated).1

theorem stated?_of_get? (found : Members.get? key members = some value)
    (present : value.isNull = false) : Members.stated? key members = some value := by
  simp [Members.stated?, found, present]

theorem overlay_of_not_object {lower : Value} (plain : ∀ members, lower ≠ .object members)
    (value : Value) : lower.overlay value = value := by
  cases value with
  | object members =>
      cases lower with
      | object base => exact absurd rfl (plain base)
      | _ => simp [Value.overlay]
  | _ => simp [Value.overlay]

theorem Value.over_of_bare {held : Option Value}
    (bare : ∀ lower ∈ held, ∀ members, lower ≠ .object members) (value : Value) :
    value.over held = value := by
  cases held with
  | none => rfl
  | some lower => exact overlay_of_not_object (bare lower rfl) value

theorem overlay_object (base members : Members) :
    (Value.object base).overlay (.object members) = .object (overlayMembers base members) := by
  simp [Value.overlay]

theorem overlayMembers_cons (base rest : Members) (key : String) (value : Value) :
    overlayMembers base ((key, value) :: rest) =
      overlayMembers
        (if value.isNull then base
          else Members.insert key (value.over (Members.get? key base)) base) rest := by
  rw [overlayMembers]
  cases Members.get? key base <;> rfl

theorem ordered_overlayMembers (ordered : Members.Ordered base) (upper : Members) :
    Members.Ordered (overlayMembers base upper) := by
  induction upper generalizing base with
  | nil => simpa [overlayMembers] using ordered
  | cons member upper ih =>
      obtain ⟨key, value⟩ := member
      rw [overlayMembers_cons]
      apply ih
      split
      · exact ordered
      · exact ordered_insert ordered _ _

theorem get?_overlayMembers (ordered : Members.Ordered upper) (key : String)
    (base : Members) :
    Members.get? key (overlayMembers base upper) =
      match Members.stated? key upper with
      | some value => some (value.over (Members.get? key base))
      | none => Members.get? key base := by
  induction upper generalizing base with
  | nil => simp [overlayMembers, Members.stated?, Members.get?]
  | cons member upper ih =>
      obtain ⟨name, value⟩ := member
      obtain ⟨before, rest⟩ := ordered_cons.mp ordered
      rw [overlayMembers_cons, ih rest]
      by_cases same : name = key
      · subst same
        have last : Members.stated? name upper = none := by
          simp [Members.stated?, get?_eq_none_of_forall_lt before]
        rw [last]
        cases null : value.isNull <;>
          simp [Members.stated?, Members.get?, Option.filter, null]
      · have unchanged : Members.get? key (if value.isNull then base
            else Members.insert name (value.over (Members.get? name base)) base) =
            Members.get? key base := by
          split
          · rfl
          · exact get?_insert_of_ne (Ne.symm same) _ _
        rw [unchanged]
        simp [Members.stated?, Members.get?, same]

theorem isNull_over (present : value.isNull = false) (held : Option Value) :
    (value.over held).isNull = false := by
  cases held with
  | none => exact present
  | some lower =>
      cases value with
      | null => cases present
      | object members =>
          cases lower <;> simp [Value.over, Value.overlay, Value.isNull]
      | _ => rfl

theorem isNull_of_stated? (stated : Members.stated? key members = some value) :
    value.isNull = false := by
  simpa using (Option.filter_eq_some_iff.mp stated).2

/-- Under every key, what the upper object states is laid over the lower one. -/
theorem stated?_overlayMembers (ordered : Members.Ordered upper) (key : String)
    (base : Members) :
    Members.stated? key (overlayMembers base upper) =
      match Members.stated? key upper with
      | some value => some (value.over (Members.get? key base))
      | none => Members.stated? key base := by
  rw [Members.stated?, get?_overlayMembers ordered]
  cases stated : Members.stated? key upper with
  | none => rfl
  | some value =>
      have present := isNull_over (isNull_of_stated? stated) (Members.get? key base)
      simp [Option.filter, present]

/-! ## Canonical values -/

theorem canonical_string (text : String) : (Value.string text).Canonical := by
  simp [Value.Canonical, Value.parts, Value.Lawful]

theorem canonical_bool (flag : Bool) : (Value.bool flag).Canonical := by
  simp [Value.Canonical, Value.parts, Value.Lawful]

theorem canonical_nat {natural : Nat} (small : (natural : Int) ≤ Number.greatestInteger) :
    (Value.nat natural).Canonical := by
  have least : Number.leastInteger ≤ 0 := by decide
  simp only [Value.Canonical, Value.nat, Value.parts, Value.Lawful, List.mem_singleton,
    forall_eq]
  omega

theorem canonical_insert (lower : (Value.object base).Canonical) (key : String)
    (high : value.Canonical) : (Value.object (Members.insert key value base)).Canonical := by
  obtain ⟨ordered, parts⟩ := canonical_object.mp lower
  refine canonical_object.mpr ⟨ordered_insert ordered _ _, ?_⟩
  intro member placed
  rcases mem_insert placed with rfl | old
  · exact high
  · exact parts member old

theorem canonical_ofMembers {pairs : List (String × Value)}
    (canonical : ∀ pair ∈ pairs, pair.2.Canonical) : (Value.ofMembers pairs).Canonical := by
  have grown : ∀ base, (Value.object base).Canonical →
      (Value.object (pairs.foldl (fun members pair => Members.insert pair.1 pair.2 members)
        base)).Canonical := by
    induction pairs with
    | nil => exact fun _ lower => lower
    | cons pair pairs ih =>
        obtain ⟨first, rest⟩ := List.forall_mem_cons.mp canonical
        intro base lower
        exact ih rest _ (canonical_insert lower pair.1 first)
  exact grown [] (canonical_object.mpr ⟨List.Pairwise.nil, nofun⟩)

mutual

theorem canonical_overlay {lower : Value} (low : lower.Canonical) (value : Value)
    (high : value.Canonical) : (lower.overlay value).Canonical := by
  cases value with
  | object members =>
      cases lower with
      | object base =>
          rw [overlay_object]
          exact canonical_overlayMembers low members (canonical_object.mp high).2
      | _ => simpa [Value.overlay] using high
  | _ => simpa [Value.overlay] using high

theorem canonical_overlayMembers {base : Members} (low : (Value.object base).Canonical)
    (upper : List (String × Value)) (high : ∀ member ∈ upper, member.2.Canonical) :
    (Value.object (overlayMembers base upper)).Canonical := by
  cases upper with
  | nil => simpa [overlayMembers] using low
  | cons member upper =>
      obtain ⟨key, value⟩ := member
      obtain ⟨first, rest⟩ := List.forall_mem_cons.mp high
      rw [overlayMembers_cons]
      apply canonical_overlayMembers _ upper rest
      split
      · exact low
      · apply canonical_insert low
        cases held : Members.get? key base with
        | none => exact first
        | some lower =>
            have placed := (canonical_object.mp low).2 _ (mem_of_get?_eq_some held)
            exact canonical_overlay placed value first

end

end PageSession.Json
