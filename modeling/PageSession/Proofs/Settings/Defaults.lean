import PageSession.Proofs.Settings.Layers

/-!
# Laid over the defaults, a value means what it means alone

The defaults are supplied twice: as members that stand below those of a file, and as
what a record is before any member is decoded.  For a value without null members both
come to the same, whatever else the value holds.
-/

namespace PageSession

namespace Json

variable {members base : Members}

/-- No member of an object in a value is null. -/
def Value.Filled (value : Value) : Prop :=
  ∀ part ∈ value.parts, ∀ members, part = .object members → ∀ member ∈ members, member.2 ≠ .null

theorem filled_object :
    (Value.object members).Filled ↔
      (∀ member ∈ members, member.2 ≠ .null) ∧ ∀ member ∈ members, member.2.Filled := by
  simp only [Value.Filled, Value.parts, List.forall_mem_cons, mem_membersParts, Value.object.injEq,
    forall_eq']
  apply and_congr_right
  intro _
  constructor
  · intro filled member placed part inside
    exact filled part ⟨member, placed, inside⟩
  · rintro filled part ⟨member, placed, inside⟩
    exact filled member placed part inside

theorem stated?_of_filled (present : ∀ member ∈ members, member.2 ≠ .null) (key : String) :
    Members.stated? key members = Members.get? key members := by
  cases found : Members.get? key members with
  | none => simp [Members.stated?, found]
  | some value =>
      have placed := mem_of_get?_eq_some found
      exact stated?_of_get? found (isNull_eq_false (present _ placed))

/-! ## Records -/

section Records

open Decode

variable {α β : Type} {fields : List (Decode.Field α)} {record : α} {expected : String}

/-- Over an object, an object decodes if and only if it decodes alone, provided every
field takes what stands below, and takes its own value over that as it does alone. -/
theorem exists_record_over_iff (uniform : ∀ field ∈ fields, field.Uniform)
    (low : Members.Ordered base) (ordered : Members.Ordered members)
    (present : ∀ member ∈ members, member.2 ≠ .null)
    (sound : ∀ field ∈ fields, ∀ held ∈ Members.get? field.name base, field.Accepts held)
    (same : ∀ field ∈ fields, ∀ value, Members.get? field.name members = some value →
      (field.Accepts (value.over (Members.get? field.name base)) ↔ field.Accepts value)) :
    (∃ result, Decode.record expected fields record
        ((Value.object base).overlay (.object members)) = .ok result) ↔
      ∃ result, Decode.record expected fields record (.object members) = .ok result := by
  rw [overlay_object]
  apply exists_members_congr uniform (ordered_overlayMembers low _) ordered
  intro field placed
  rw [get?_overlayMembers ordered, stated?_of_filled present]
  cases found : Members.get? field.name members with
  | none => simpa using sound field placed
  | some value => simpa using same field placed value found

/-- The same, if what stands below are values that every field takes, and no objects. -/
theorem exists_record_over_bare_iff (uniform : ∀ field ∈ fields, field.Uniform)
    (low : Members.Ordered base) (ordered : Members.Ordered members)
    (present : ∀ member ∈ members, member.2 ≠ .null)
    (bare : ∀ field ∈ fields, ∀ held ∈ Members.get? field.name base,
      field.Accepts held ∧ ∀ inner, held ≠ .object inner) :
    (∃ result, Decode.record expected fields record
        ((Value.object base).overlay (.object members)) = .ok result) ↔
      ∃ result, Decode.record expected fields record (.object members) = .ok result := by
  apply exists_record_over_iff uniform low ordered present
  · exact fun field placed held found => (bare field placed held found).1
  · intro field placed value _
    rw [Value.over_of_bare fun held found => (bare field placed held found).2]

/-- Over an object, a value decodes if and only if it decodes alone. -/
def Agrees (decode : Value → Decoded α) (base value : Value) : Prop :=
  (∃ content, decode (base.overlay value) = .ok content) ↔ ∃ content, decode value = .ok content

theorem agrees_of_not_object {decode : Value → Decoded α} (base : Value) {value : Value}
    (plain : ∀ members, value ≠ .object members) : Agrees decode base value := by
  cases value with
  | object members => exact absurd rfl (plain members)
  | _ => simp [Agrees, Value.overlay]

end Records

end Json

namespace Settings

open Json Json.Decode

variable {members : Members}

/-! ## Sections -/

theorem agrees_connection (ordered : Members.Ordered members)
    (present : ∀ member ∈ members, member.2 ≠ .null) :
    Agrees ConnectionSettings.decode (.ofMembers (ConnectionSettings.members {}))
      (.object members) := by
  apply exists_record_over_bare_iff _ (ordered_ofList _) ordered present
  · intro field placed
    simp only [ConnectionSettings.fields, List.mem_cons, List.not_mem_nil, or_false] at placed
    rcases placed with rfl | rfl | rfl | rfl <;> rintro _ ⟨⟩
    all_goals exact ⟨⟨{}, _, rfl⟩, nofun⟩
  · simp [ConnectionSettings.fields, Field.uniform_of_put]

theorem agrees_scripts (ordered : Members.Ordered members)
    (present : ∀ member ∈ members, member.2 ≠ .null) :
    Agrees ScriptSettings.decode (.ofMembers (ScriptSettings.members {})) (.object members) := by
  apply exists_record_over_bare_iff _ (ordered_ofList _) ordered present
  · intro field placed
    obtain rfl := List.mem_singleton.mp placed
    rintro _ ⟨⟩
    exact ⟨⟨{}, _, rfl⟩, nofun⟩
  · simp [ScriptSettings.fields, Field.uniform_of_put]

/-- The written defaults of a session are empty. -/
theorem agrees_session (ordered : Members.Ordered members)
    (present : ∀ member ∈ members, member.2 ≠ .null) :
    Agrees SessionSettings.decode (.ofMembers (SessionSettings.members {})) (.object members) := by
  apply exists_record_over_bare_iff _ (ordered_ofList _) ordered present
  · rintro field - held ⟨⟩
  · simp [SessionSettings.fields, Field.uniform_of_put]

theorem agrees_log (ordered : Members.Ordered members)
    (present : ∀ member ∈ members, member.2 ≠ .null) :
    Agrees LogSettings.decode (.ofMembers (LogSettings.members {})) (.object members) := by
  apply exists_record_over_bare_iff _ (ordered_ofList _) ordered present
  · intro field placed
    simp only [LogSettings.fields, List.mem_cons, List.not_mem_nil, or_false] at placed
    -- The written defaults of a log have no table of levels.
    rcases placed with rfl | rfl | rfl <;> rintro _ ⟨⟩
    all_goals exact ⟨⟨{}, _, rfl⟩, nofun⟩
  · simp [LogSettings.fields, Field.uniform_of_put]

/-! ## All settings -/

theorem accepts_section_over_iff {β : Type} {name : String} {decode : Value → Decoded β}
    {put : β → Settings → Settings} {lower : Members} {base value : Value}
    (held : Members.get? name lower = some base)
    (agrees : ∀ members, value = .object members → Agrees decode base (.object members)) :
    Field.Accepts
        ⟨name, fun value settings => decode value >>= fun content => .ok (put content settings)⟩
        (value.over (Members.get? name lower)) ↔
      Field.Accepts
        ⟨name, fun value settings => decode value >>= fun content => .ok (put content settings)⟩
        value := by
  rw [held, Field.accepts_put_iff {}, Field.accepts_put_iff {}]
  by_cases object : ∃ members, value = .object members
  · obtain ⟨members, rfl⟩ := object
    exact agrees members rfl
  · exact agrees_of_not_object base (not_exists.mp object)

/-- Over the defaults, a value without null members decodes if and only if it decodes
alone. -/
theorem agrees_decode {given : Value} (canonical : given.Canonical) (filled : given.Filled) :
    Agrees decode (toJson {}) given := by
  by_cases object : ∃ members, given = .object members
  case neg => exact agrees_of_not_object _ (not_exists.mp object)
  case pos =>
    obtain ⟨members, rfl⟩ := object
    obtain ⟨ordered, parts⟩ := canonical_object.mp canonical
    obtain ⟨present, inner⟩ := filled_object.mp filled
    -- Each section is ordered and without null members in its turn.
    have sections : ∀ {key fields}, Members.get? key members = some (.object fields) →
        Members.Ordered fields ∧ ∀ member ∈ fields, member.2 ≠ .null := by
      intro key fields found
      have placed := mem_of_get?_eq_some found
      exact ⟨(canonical_object.mp (parts _ placed)).1, (filled_object.mp (inner _ placed)).1⟩
    apply exists_record_over_iff _ (ordered_ofList _) ordered present
    · intro field placed
      simp only [Settings.fields, List.mem_cons, List.not_mem_nil, or_false] at placed
      rcases placed with rfl | rfl | rfl | rfl <;> rintro _ ⟨⟩
      all_goals exact ⟨{}, _, rfl⟩
    · intro field placed value found
      simp only [Settings.fields, List.mem_cons, List.not_mem_nil, or_false] at placed
      rcases placed with rfl | rfl | rfl | rfl <;> apply accepts_section_over_iff rfl <;>
        rintro fields rfl <;> obtain ⟨ordered, present⟩ := sections found
      · exact agrees_connection ordered present
      · exact agrees_scripts ordered present
      · exact agrees_session ordered present
      · exact agrees_log ordered present
    · simp [Settings.fields, Field.uniform_of_put]

/-- What decodes over the defaults and alone decodes to the same settings. -/
theorem eq_of_decode_overlay {given : Value} {merged alone : Settings}
    (canonical : given.Canonical)
    (decodedOver : decode ((toJson {}).overlay given) = .ok merged)
    (decodedAlone : decode given = .ok alone) : merged = alone := by
  apply Setting.eq_of_get_eq
  intro setting
  have settles := setting.settles_merged canonical decodedOver
  exact settles.unique (setting.settles_decode canonical decodedAlone)

/-- A value without null members decodes over the written defaults just if it decodes
alone, missing members keeping their defaults, and to the same settings. -/
theorem decode_overlay_eq_ok_iff {given : Value} (canonical : given.Canonical)
    (filled : given.Filled) (settings : Settings) :
    decode ((toJson {}).overlay given) = .ok settings ↔ decode given = .ok settings := by
  have agrees := agrees_decode canonical filled
  constructor
  · intro merged
    obtain ⟨other, alone⟩ := agrees.mp ⟨settings, merged⟩
    rw [alone, eq_of_decode_overlay canonical merged alone]
  · intro alone
    obtain ⟨other, merged⟩ := agrees.mpr ⟨settings, alone⟩
    rw [merged, eq_of_decode_overlay canonical merged alone]

/-- A member without meaning, a section as an array that is too short, an empty section,
and one that gives a single setting. -/
def mixedSections : Value :=
  .object
    [("extra", .array [.null]), ("logging", .array [.string "warn", .bool true]),
      ("resources", .object []), ("transport", .object [("maxInactivityMs", .nat 5)])]

/-- A section that is a number. -/
def numberSection : Value := .object [("session", .nat 1)]

theorem decode_overlay_eq_ok_iff_mixed :
    decode ((toJson {}).overlay mixedSections) =
        .ok { connection := { maxInactivity := 5 }, log := { level := "warn", json := true } } ∧
      ∀ settings, decode ((toJson {}).overlay numberSection) ≠ .ok settings := by
  constructor
  · apply (decode_overlay_eq_ok_iff _ _ _).mpr rfl
    · decide
    · simp only [mixedSections, filled_object, List.forall_mem_cons]
      simp [Value.Filled, Value.parts, itemsParts, Value.nat]
  · have canonical : numberSection.Canonical := by decide
    have filled : numberSection.Filled := by
      simp [numberSection, Value.Filled, Value.parts, membersParts, Value.nat]
    intro settings merged
    have alone := (decode_overlay_eq_ok_iff canonical filled settings).mp merged
    cases alone

end Settings

end PageSession
