import Mathlib.Data.List.Basic
import PageSession.Json.Value

/-!
# Values and what is in them

A value has parts and a depth.  A canonical value is one that can be held: its
integers have 64 bits, and its objects list their members by their keys.
-/

namespace PageSession.Json

/-! ## Parts of a value -/

/-- What holds of an array or object if it holds of everything in it, and of every
other value, holds of all values. -/
@[elab_as_elim]
theorem Value.byParts {motive : Value → Prop} (null : motive .null)
    (bool : ∀ flag, motive (.bool flag)) (number : ∀ number, motive (.number number))
    (string : ∀ text, motive (.string text))
    (array : ∀ items, (∀ item ∈ items, motive item) → motive (.array items))
    (object : ∀ members, (∀ member ∈ members, motive member.2) → motive (.object members))
    (value : Value) : motive value := by
  refine @Value.rec motive (fun items => ∀ item ∈ items, motive item)
    (fun members => ∀ member ∈ members, motive member.2) (fun member => motive member.2)
    null bool number string array object ?_ ?_ ?_ ?_ ?_ value
  · exact nofun
  · exact fun item items first rest => List.forall_mem_cons.mpr ⟨first, rest⟩
  · exact nofun
  · exact fun member members first rest => List.forall_mem_cons.mpr ⟨first, rest⟩
  · exact fun key value held => held

mutual

/-- A value and everything inside of it. -/
def Value.parts : Value → List Value
  | .array items => .array items :: itemsParts items
  | .object members => .object members :: membersParts members
  | other => [other]

def itemsParts : List Value → List Value
  | [] => []
  | item :: rest => item.parts ++ itemsParts rest

def membersParts : List (String × Value) → List Value
  | [] => []
  | (_, value) :: rest => value.parts ++ membersParts rest

end

mutual

/-- How deep arrays and objects nest in a value. -/
def Value.depth : Value → Nat
  | .array items => itemsDepth items + 1
  | .object members => membersDepth members + 1
  | _ => 0

def itemsDepth : List Value → Nat
  | [] => 0
  | item :: rest => max item.depth (itemsDepth rest)

def membersDepth : List (String × Value) → Nat
  | [] => 0
  | (_, value) :: rest => max value.depth (membersDepth rest)

end

/-- An integer has 64 bits, and an object lists its members by their keys. -/
def Value.Lawful : Value → Prop
  | .number (.integer value) =>
      Number.leastInteger ≤ value ∧ value ≤ Number.greatestInteger
  | .object members => Members.Ordered members
  | _ => True

def Value.isFloat : Value → Bool
  | .number (.float _) => true
  | _ => false

/-- Every part of a value is lawful. -/
def Value.Canonical (value : Value) : Prop :=
  ∀ part ∈ value.parts, part.Lawful

instance (members : Members) : Decidable (Members.Ordered members) :=
  inferInstanceAs (Decidable ((members.map Prod.fst).Pairwise (· < ·)))

instance : (value : Value) → Decidable value.Lawful
  | .number (.integer value) =>
      inferInstanceAs (Decidable (Number.leastInteger ≤ value ∧ value ≤ Number.greatestInteger))
  | .object members => inferInstanceAs (Decidable (Members.Ordered members))
  | .null | .bool _ | .number (.float _) | .string _ | .array _ => inferInstanceAs (Decidable True)

instance (value : Value) : Decidable value.Canonical :=
  inferInstanceAs (Decidable (∀ part ∈ value.parts, part.Lawful))

/-- An integer has 64 bits. -/
def Value.Bounded : Value → Prop
  | .number (.integer value) =>
      Number.leastInteger ≤ value ∧ value ≤ Number.greatestInteger
  | _ => True

/-- Every integer in a value has 64 bits; objects may list their members in any order. -/
def Value.Narrow (value : Value) : Prop :=
  ∀ part ∈ value.parts, part.Bounded

theorem Value.Lawful.bounded {value : Value} (lawful : value.Lawful) : value.Bounded := by
  cases value with
  | number number =>
      cases number with
      | integer value => exact lawful
      | float value => trivial
  | _ => trivial

theorem Value.Canonical.narrow {value : Value} (canonical : value.Canonical) : value.Narrow :=
  fun part placed => (canonical part placed).bounded

/-- No number in a value is a float. -/
def Value.Exact (value : Value) : Prop :=
  ∀ part ∈ value.parts, part.isFloat = false

/-! ## Members -/

theorem mem_insert {key : String} {value : Value} {members : Members}
    {member : String × Value} (placed : member ∈ Members.insert key value members) :
    member = (key, value) ∨ member ∈ members := by
  induction members with
  | nil => exact .inl (List.mem_singleton.mp placed)
  | cons head members ih =>
      obtain ⟨name, held⟩ := head
      unfold Members.insert at placed
      split at placed
      · rcases List.mem_cons.mp placed with now | before
        · exact .inl now
        · exact .inr (List.mem_cons_of_mem _ before)
      · split at placed
        · exact List.mem_cons.mp placed
        · rcases List.mem_cons.mp placed with first | later
          · exact .inr (first ▸ List.mem_cons_self)
          · exact (ih later).imp_right (List.mem_cons_of_mem _)

theorem ordered_cons {key : String} {value : Value} {members : Members} :
    Members.Ordered ((key, value) :: members) ↔
      (∀ member ∈ members, key < member.1) ∧ Members.Ordered members := by
  simp [Members.Ordered, List.pairwise_cons]

theorem ordered_insert {members : Members} (ordered : Members.Ordered members)
    (key : String) (value : Value) : Members.Ordered (Members.insert key value members) := by
  induction members with
  | nil => simp [Members.insert, Members.Ordered]
  | cons head members ih =>
      obtain ⟨name, held⟩ := head
      obtain ⟨before, rest⟩ := ordered_cons.mp ordered
      unfold Members.insert
      split
      · next same => exact ordered_cons.mpr ⟨same ▸ before, rest⟩
      · next different =>
          split
          · next earlier =>
              refine ordered_cons.mpr ⟨?_, ordered⟩
              intro member placed
              rcases List.mem_cons.mp placed with rfl | later
              · exact earlier
              · exact String.lt_trans earlier (before member later)
          · next later =>
              have behind : name < key :=
                Std.lt_of_le_of_ne (String.not_lt.mp later) (Ne.symm different)
              refine ordered_cons.mpr ⟨?_, ih rest⟩
              intro member placed
              rcases mem_insert placed with rfl | old
              · exact behind
              · exact before member old

theorem mem_of_get?_eq_some {key : String} {value : Value} {members : Members}
    (found : Members.get? key members = some value) : (key, value) ∈ members := by
  induction members with
  | nil => simp [Members.get?] at found
  | cons head members ih =>
      obtain ⟨name, held⟩ := head
      unfold Members.get? at found
      split at found
      · next same =>
          cases found
          exact same ▸ List.mem_cons_self
      · exact List.mem_cons_of_mem _ (ih found)

/-! ## Parts and depth of lists -/

theorem mem_itemsParts {part : Value} {items : List Value} :
    part ∈ itemsParts items ↔ ∃ item ∈ items, part ∈ item.parts := by
  induction items with
  | nil => simp [itemsParts]
  | cons item items ih => simp [itemsParts, ih]

theorem mem_membersParts {part : Value} {members : Members} :
    part ∈ membersParts members ↔ ∃ member ∈ members, part ∈ member.2.parts := by
  induction members with
  | nil => simp [membersParts]
  | cons member members ih =>
      obtain ⟨key, value⟩ := member
      rw [membersParts, List.mem_append, ih, List.exists_mem_cons_iff]

theorem itemsDepth_le_iff {items : List Value} {bound : Nat} :
    itemsDepth items ≤ bound ↔ ∀ item ∈ items, item.depth ≤ bound := by
  induction items with
  | nil => simp [itemsDepth]
  | cons item items ih => simp only [itemsDepth, Nat.max_le, ih, List.forall_mem_cons]

theorem membersDepth_le_iff {members : Members} {bound : Nat} :
    membersDepth members ≤ bound ↔ ∀ member ∈ members, member.2.depth ≤ bound := by
  induction members with
  | nil => simp [membersDepth]
  | cons member members ih =>
      obtain ⟨key, value⟩ := member
      simp only [membersDepth, Nat.max_le, ih, List.forall_mem_cons]

theorem canonical_array {items : List Value} :
    (Value.array items).Canonical ↔ ∀ item ∈ items, item.Canonical := by
  simp only [Value.Canonical, Value.parts, List.forall_mem_cons, Value.Lawful, true_and,
    mem_itemsParts]
  constructor
  · intro lawful item member part inside
    exact lawful part ⟨item, member, inside⟩
  · rintro lawful part ⟨item, member, inside⟩
    exact lawful item member part inside

theorem canonical_object {members : Members} :
    (Value.object members).Canonical ↔
      Members.Ordered members ∧ ∀ member ∈ members, member.2.Canonical := by
  simp only [Value.Canonical, Value.parts, List.forall_mem_cons, Value.Lawful,
    mem_membersParts]
  apply and_congr_right
  intro _
  constructor
  · intro lawful member inside part piece
    exact lawful part ⟨member, inside, piece⟩
  · rintro lawful part ⟨member, inside, piece⟩
    exact lawful member inside part piece

theorem narrow_array {items : List Value} :
    (Value.array items).Narrow ↔ ∀ item ∈ items, item.Narrow := by
  simp only [Value.Narrow, Value.parts, List.forall_mem_cons, Value.Bounded, true_and,
    mem_itemsParts]
  constructor
  · intro bounded item member part inside
    exact bounded part ⟨item, member, inside⟩
  · rintro bounded part ⟨item, member, inside⟩
    exact bounded item member part inside

theorem narrow_object {members : Members} :
    (Value.object members).Narrow ↔ ∀ member ∈ members, member.2.Narrow := by
  simp only [Value.Narrow, Value.parts, List.forall_mem_cons, Value.Bounded, true_and,
    mem_membersParts]
  constructor
  · intro bounded member inside part piece
    exact bounded part ⟨member, inside, piece⟩
  · rintro bounded part ⟨member, inside, piece⟩
    exact bounded member inside part piece

theorem exact_array {items : List Value} :
    (Value.array items).Exact ↔ ∀ item ∈ items, item.Exact := by
  simp only [Value.Exact, Value.parts, List.forall_mem_cons, Value.isFloat, true_and,
    mem_itemsParts]
  constructor
  · intro exact item member part inside
    exact exact part ⟨item, member, inside⟩
  · rintro exact part ⟨item, member, inside⟩
    exact exact item member part inside

theorem exact_object {members : Members} :
    (Value.object members).Exact ↔ ∀ member ∈ members, member.2.Exact := by
  simp only [Value.Exact, Value.parts, List.forall_mem_cons, Value.isFloat, true_and,
    mem_membersParts]
  constructor
  · intro exact member inside part piece
    exact exact part ⟨member, inside, piece⟩
  · rintro exact part ⟨member, inside, piece⟩
    exact exact member inside part piece

end PageSession.Json
