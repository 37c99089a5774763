import PageSession.Proofs.Json.Decoding

/-!
# Values without their nulls

Null members can be taken out of an object, and out of the objects in its members.
What is left states the same, except within the values themselves: it matters only
to those who look into a value that nothing is laid under.
-/

namespace PageSession.Json

mutual

/-- A value without the null members of the objects that are reached through
objects; arrays stay as they are. -/
def Value.withoutNulls : Value → Value
  | .object members => .object (membersWithoutNulls members)
  | other => other

def membersWithoutNulls : List (String × Value) → Members
  | [] => []
  | (key, value) :: rest =>
      if value.isNull then membersWithoutNulls rest
      else (key, value.withoutNulls) :: membersWithoutNulls rest

end

variable {value : Value} {base members : Members}

theorem withoutNulls_object (members : Members) :
    (Value.object members).withoutNulls = .object (membersWithoutNulls members) := by
  rw [Value.withoutNulls]

@[simp] theorem isNull_withoutNulls (value : Value) :
    value.withoutNulls.isNull = value.isNull := by
  cases value <;> simp [Value.withoutNulls, Value.isNull]

theorem exists_mem_of_mem_membersWithoutNulls {member : String × Value}
    (placed : member ∈ membersWithoutNulls members) :
    ∃ value, (member.1, value) ∈ members ∧ member.2 = value.withoutNulls := by
  induction members with
  | nil => simp [membersWithoutNulls] at placed
  | cons head members ih =>
      obtain ⟨key, value⟩ := head
      rw [membersWithoutNulls] at placed
      split at placed
      · obtain ⟨held, later, same⟩ := ih placed
        exact ⟨held, List.mem_cons_of_mem _ later, same⟩
      · rcases List.mem_cons.mp placed with rfl | behind
        · exact ⟨value, List.mem_cons_self, rfl⟩
        · obtain ⟨held, later, same⟩ := ih behind
          exact ⟨held, List.mem_cons_of_mem _ later, same⟩

theorem ordered_membersWithoutNulls (ordered : Members.Ordered members) :
    Members.Ordered (membersWithoutNulls members) := by
  induction members with
  | nil => simp [membersWithoutNulls, Members.Ordered]
  | cons head members ih =>
      obtain ⟨key, value⟩ := head
      obtain ⟨before, rest⟩ := ordered_cons.mp ordered
      rw [membersWithoutNulls]
      split
      · exact ih rest
      · refine ordered_cons.mpr ⟨?_, ih rest⟩
        intro member placed
        obtain ⟨held, inside, -⟩ := exists_mem_of_mem_membersWithoutNulls placed
        exact before (member.1, held) inside

/-- What is left under a key is what was stated there, without its nulls. -/
theorem stated?_membersWithoutNulls (ordered : Members.Ordered members) (key : String) :
    Members.stated? key (membersWithoutNulls members) =
      (Members.stated? key members).map Value.withoutNulls := by
  induction members with
  | nil => rfl
  | cons head members ih =>
      obtain ⟨name, value⟩ := head
      obtain ⟨before, rest⟩ := ordered_cons.mp ordered
      have ih := ih rest
      rw [membersWithoutNulls]
      by_cases same : name = key
      · subst same
        have last : Members.stated? name members = none := by
          simp [Members.stated?, get?_eq_none_of_forall_lt before]
        cases null : value.isNull with
        | true =>
            rw [if_pos rfl, ih, last]
            simp [Members.stated?, Members.get?, Option.filter, null]
        | false => simp [Members.stated?, Members.get?, Option.filter, null]
      · cases null : value.isNull with
        | true => simpa [Members.stated?, Members.get?, same] using ih
        | false => simpa [Members.stated?, Members.get?, same] using ih

mutual

theorem canonical_withoutNulls (value : Value) (canonical : value.Canonical) :
    value.withoutNulls.Canonical := by
  cases value with
  | object members =>
      obtain ⟨ordered, parts⟩ := canonical_object.mp canonical
      rw [withoutNulls_object]
      exact canonical_object.mpr
        ⟨ordered_membersWithoutNulls ordered, canonical_membersWithoutNulls members parts⟩
  | _ => simpa [Value.withoutNulls] using canonical

theorem canonical_membersWithoutNulls (members : List (String × Value))
    (canonical : ∀ member ∈ members, member.2.Canonical) :
    ∀ member ∈ membersWithoutNulls members, member.2.Canonical := by
  cases members with
  | nil => simp [membersWithoutNulls]
  | cons head members =>
      obtain ⟨key, value⟩ := head
      obtain ⟨first, rest⟩ := List.forall_mem_cons.mp canonical
      have later := canonical_membersWithoutNulls members rest
      rw [membersWithoutNulls]
      split
      · exact later
      · exact List.forall_mem_cons.mpr ⟨canonical_withoutNulls value first, later⟩

end

/-! ## Decoding what is laid over something -/

section Decoding

open Decode

variable {α : Type} {fields : List (Decode.Field α)} {record : α} {expected : String}

/-- Over an object, a record decodes with the nulls of its upper object if and only if it
decodes without them, provided this holds of every field. -/
theorem exists_record_overlay_iff (uniform : ∀ field ∈ fields, field.Uniform)
    (low : Members.Ordered base) (ordered : Members.Ordered members)
    (same : ∀ field ∈ fields, ∀ value, Members.stated? field.name members = some value →
      (field.Accepts (value.over (Members.get? field.name base)) ↔
        field.Accepts (value.withoutNulls.over (Members.get? field.name base)))) :
    (∃ result, Decode.record expected fields record
        ((Value.object base).overlay (.object members)) = .ok result) ↔
      ∃ result, Decode.record expected fields record
        ((Value.object base).overlay (Value.object members).withoutNulls) = .ok result := by
  rw [withoutNulls_object, overlay_object, overlay_object]
  apply exists_members_congr uniform (ordered_overlayMembers low _) (ordered_overlayMembers low _)
  intro field placed
  rw [get?_overlayMembers ordered, get?_overlayMembers (ordered_membersWithoutNulls ordered),
    stated?_membersWithoutNulls ordered]
  cases stated : Members.stated? field.name members with
  | none => rfl
  | some value => simpa using same field placed value stated

/-- What does not decode objects decodes a value with its nulls as without them. -/
theorem exists_decode_iff {decode : Value → Decoded α}
    (plain : ∀ members result, decode (.object members) ≠ .ok result) (value : Value) :
    (∃ result, decode value = .ok result) ↔ ∃ result, decode value.withoutNulls = .ok result := by
  cases value with
  | object members =>
      rw [withoutNulls_object]
      constructor
      · rintro ⟨result, decoded⟩
        exact absurd decoded (plain _ _)
      · rintro ⟨result, decoded⟩
        exact absurd decoded (plain _ _)
  | _ => simp [Value.withoutNulls]

/-- A field that stands over no object. -/
theorem accepts_over_iff {β : Type} (record : α) {name : String} {decode : Value → Decoded β}
    {put : β → α → α}
    (bare : ∀ held ∈ Members.get? name base, ∀ members, held ≠ .object members)
    (same : (∃ content, decode value = .ok content) ↔
      ∃ content, decode value.withoutNulls = .ok content) :
    Field.Accepts
        ⟨name, fun value record => decode value >>= fun content => .ok (put content record)⟩
        (value.over (Members.get? name base)) ↔
      Field.Accepts
        ⟨name, fun value record => decode value >>= fun content => .ok (put content record)⟩
        (value.withoutNulls.over (Members.get? name base)) := by
  rw [Value.over_of_bare bare, Value.over_of_bare bare, Field.accepts_put_iff record,
    Field.accepts_put_iff record]
  exact same

end Decoding

end PageSession.Json
