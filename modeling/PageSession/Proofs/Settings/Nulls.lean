import PageSession.Proofs.Json.Nulls
import PageSession.Proofs.Settings.Layers

/-!
# Nulls in a settings file

A null member of a file leaves what the defaults have in its place, with one
exception: the defaults have no levels of single parts, so nothing takes the nulls
out of a table of levels, and a level that is null does not decode.
-/

namespace PageSession

open Json Json.Decode

namespace Settings

variable {members : Members}

/-! ## Tables -/

theorem membersWithoutNulls_texts (content : List (String × String)) :
    membersWithoutNulls (content.map fun (name, text) => (name, .string text)) =
      content.map fun (name, text) => (name, .string text) := by
  induction content with
  | nil => rfl
  | cons entry content ih =>
      simp [membersWithoutNulls, Value.isNull, Value.withoutNulls, ih]

theorem eq_texts_of_membersWithoutNulls {levels : Members}
    (filled : ∀ member ∈ levels, member.2 ≠ .null) {content : List (String × String)}
    (same : membersWithoutNulls levels = content.map fun (name, text) => (name, .string text)) :
    levels = content.map fun (name, text) => (name, .string text) := by
  induction levels generalizing content with
  | nil => simpa [membersWithoutNulls] using same
  | cons member levels ih =>
      obtain ⟨name, value⟩ := member
      obtain ⟨present, later⟩ := List.forall_mem_cons.mp filled
      have kept : membersWithoutNulls ((name, value) :: levels) =
          (name, value.withoutNulls) :: membersWithoutNulls levels := by
        cases value with
        | null => exact absurd rfl present
        | _ => simp [membersWithoutNulls, Value.isNull]
      rw [kept] at same
      cases content with
      | nil => cases same
      | cons entry content =>
          obtain ⟨first, rest⟩ := List.cons.inj same
          obtain ⟨rfl, text⟩ := Prod.mk.inj first
          have text : value = .string entry.2 := by
            cases value with
            | string _ => simpa [Value.withoutNulls] using text
            | _ => simp [Value.withoutNulls] at text
          rw [ih later rest, text]
          rfl

/-! ## Sections -/

/-- Over a base, a value decodes with its nulls if and only if it decodes without them. -/
def Indifferent {α : Type} (decode : Value → Decoded α) (base value : Value) : Prop :=
  (∃ content, decode (base.overlay value) = .ok content) ↔
    ∃ content, decode (base.overlay value.withoutNulls) = .ok content

theorem indifferent_connection (ordered : Members.Ordered members) :
    Indifferent ConnectionSettings.decode (.ofMembers (ConnectionSettings.members {}))
      (.object members) := by
  apply exists_record_overlay_iff _ (ordered_ofList _) ordered
  · intro field placed value stated
    simp only [ConnectionSettings.fields, List.mem_cons, List.not_mem_nil, or_false] at placed
    rcases placed with rfl | rfl | rfl | rfl
    all_goals
      apply accepts_over_iff {}
      · rintro _ ⟨⟩
        nofun
      · exact exists_decode_iff nofun value
  · simp [ConnectionSettings.fields, Field.uniform_of_put]

theorem indifferent_scripts (ordered : Members.Ordered members) :
    Indifferent ScriptSettings.decode (.ofMembers (ScriptSettings.members {}))
      (.object members) := by
  apply exists_record_overlay_iff _ (ordered_ofList _) ordered
  · intro field placed value stated
    obtain rfl := List.mem_singleton.mp placed
    apply accepts_over_iff {}
    · rintro _ ⟨⟩
      nofun
    · exact exists_decode_iff nofun value
  · simp [ScriptSettings.fields, Field.uniform_of_put]

theorem indifferent_session (ordered : Members.Ordered members) :
    Indifferent SessionSettings.decode (.ofMembers (SessionSettings.members {}))
      (.object members) := by
  apply exists_record_overlay_iff _ (ordered_ofList _) ordered
  · intro field placed value stated
    obtain rfl := List.mem_singleton.mp placed
    apply accepts_over_iff {}
    · rintro _ ⟨⟩
    · exact exists_decode_iff nofun value
  · simp [SessionSettings.fields, Field.uniform_of_put]

/-- A table without nulls decodes with the nulls in its members as without them. -/
theorem exists_table_iff {levels : Members} (filled : ∀ member ∈ levels, member.2 ≠ .null) :
    (∃ content, table string (.object levels) = .ok content) ↔
      ∃ content, table string (Value.object levels).withoutNulls = .ok content := by
  simp only [withoutNulls_object, table_string_eq_ok_iff, Value.object.injEq]
  constructor
  · rintro ⟨content, rfl⟩
    exact ⟨content, membersWithoutNulls_texts content⟩
  · rintro ⟨content, same⟩
    exact ⟨content, eq_texts_of_membersWithoutNulls filled same⟩

theorem indifferent_log (ordered : Members.Ordered members)
    (filled : ∀ levels, Members.stated? "modules" members = some (.object levels) →
      ∀ member ∈ levels, member.2 ≠ .null) :
    Indifferent LogSettings.decode (.ofMembers (LogSettings.members {})) (.object members) := by
  apply exists_record_overlay_iff _ (ordered_ofList _) ordered
  · intro field placed value stated
    simp only [LogSettings.fields, List.mem_cons, List.not_mem_nil, or_false] at placed
    rcases placed with rfl | rfl | rfl
    · apply accepts_over_iff {}
      · rintro _ ⟨⟩
        nofun
      · exact exists_decode_iff nofun value
    · apply accepts_over_iff {}
      · rintro _ ⟨⟩
        nofun
      · exact exists_decode_iff nofun value
    · apply accepts_over_iff {}
      · rintro _ ⟨⟩
      cases value with
      | object levels => exact exists_table_iff (filled levels stated)
      | _ => simp [Value.withoutNulls]
  · simp [LogSettings.fields, Field.uniform_of_put]

/-! ## The whole file -/

/-- A value that states a level of a part of the program and makes it null. -/
def NamesNull (value : Value) : Prop :=
  ∃ levels, Setting.logModules.stated? value = some (.object levels) ∧
    ∃ member ∈ levels, member.2 = .null

theorem accepts_section_iff {β : Type} {name : String} {decode : Value → Decoded β}
    {put : β → Settings → Settings} {lower : Members} {base value : Value}
    (held : Members.get? name lower = some base)
    (indifferent : ∀ members, value = .object members → Indifferent decode base value) :
    Field.Accepts
        ⟨name, fun value settings => decode value >>= fun content => .ok (put content settings)⟩
        (value.over (Members.get? name lower)) ↔
      Field.Accepts
        ⟨name, fun value settings => decode value >>= fun content => .ok (put content settings)⟩
        (value.withoutNulls.over (Members.get? name lower)) := by
  rw [held, Field.accepts_put_iff {}, Field.accepts_put_iff {}]
  cases value with
  | object members => exact indifferent members rfl
  | _ => simp [Value.withoutNulls]

theorem indifferent_settings (canonical : (Value.object members).Canonical)
    (filled : ¬ NamesNull (.object members)) :
    Indifferent Settings.decode (toJson {}) (.object members) := by
  obtain ⟨ordered, parts⟩ := canonical_object.mp canonical
  have inner : ∀ {key value}, Members.stated? key members = some value →
      ∀ fields, value = .object fields → Members.Ordered fields := by
    rintro key value stated fields rfl
    have found := get?_of_stated? stated
    exact (canonical_object.mp (parts _ (mem_of_get?_eq_some found))).1
  apply exists_record_overlay_iff _ (ordered_ofList _) ordered
  · intro field placed value stated
    simp only [Settings.fields, List.mem_cons, List.not_mem_nil, or_false] at placed
    rcases placed with rfl | rfl | rfl | rfl
    · apply accepts_section_iff rfl
      rintro fields rfl
      exact indifferent_connection (inner stated _ rfl)
    · apply accepts_section_iff rfl
      rintro fields rfl
      exact indifferent_scripts (inner stated _ rfl)
    · apply accepts_section_iff rfl
      rintro fields rfl
      exact indifferent_session (inner stated _ rfl)
    · apply accepts_section_iff rfl
      rintro fields rfl
      apply indifferent_log (inner stated _ rfl)
      intro levels table member placed null
      refine filled ⟨levels, ?_, member, placed, null⟩
      change (Members.stated? "logging" members).bind _ = _
      rw [show Members.stated? "logging" members = _ from stated]
      exact table
  · simp [Settings.fields, Field.uniform_of_put]

end Settings

namespace Setting

theorem withoutNulls_written (setting : Setting) (content : setting.Content) :
    (setting.written content).withoutNulls = setting.written content := by
  cases setting with
  | logModules =>
      rw [written, withoutNulls_object]
      exact congrArg Value.object (Settings.membersWithoutNulls_texts content)
  | storagePath => cases content <;> simp [written, Value.withoutNulls]
  | _ => simp [written, Value.nat, Value.withoutNulls]

theorem stated?_withoutNulls (setting : Setting) {value : Value}
    (canonical : value.Canonical) :
    setting.stated? value.withoutNulls = setting.stated? value ∨
      setting.stated? value.withoutNulls = (setting.stated? value).map Value.withoutNulls := by
  cases value with
  | object members =>
      obtain ⟨ordered, parts⟩ := canonical_object.mp canonical
      rw [withoutNulls_object]
      simp only [stated?, Value.part?, stated?_membersWithoutNulls ordered]
      cases stated : Members.stated? setting.sectionKey.1 members with
      | none => exact .inl rfl
      | some value =>
          cases value with
          | object fields =>
              have found := get?_of_stated? stated
              have inner := (canonical_object.mp (parts _ (mem_of_get?_eq_some found))).1
              right
              simp [withoutNulls_object, stated?_membersWithoutNulls inner]
          | _ => exact .inl (by simp [Value.withoutNulls])
  | _ => exact .inl (by simp [Value.withoutNulls])

theorem Settles.withoutNulls {setting : Setting} {value : Value} {content : setting.Content}
    (canonical : value.Canonical) (settles : setting.Settles (setting.stated? value) content) :
    setting.Settles (setting.stated? value.withoutNulls) content := by
  rcases setting.stated?_withoutNulls canonical with same | same
  · rwa [same]
  · rw [same]
    cases stated : setting.stated? value with
    | none =>
        rw [stated] at settles
        exact settles
    | some part =>
        rw [stated] at settles
        obtain rfl : part = setting.written content := settles
        exact setting.withoutNulls_written content

end Setting

namespace Settings

variable {members : Members}

/-- A level that is null does not decode. -/
theorem decode_ne_ok_of_namesNull (canonical : (Value.object members).Canonical)
    (null : NamesNull (.object members)) (settings : Settings) :
    decode ((toJson {}).overlay (.object members)) ≠ .ok settings := by
  intro decoded
  obtain ⟨levels, stated, ⟨name, value⟩, placed, rfl⟩ := null
  have settles := Setting.logModules.settles_merged canonical decoded
  rw [stated] at settles
  obtain rfl := Value.object.inj settles
  obtain ⟨entry, -, same⟩ := List.mem_map.mp placed
  cases same

/-- Over the defaults, a value decodes to the same settings with its nulls as without
them. -/
theorem toOption_decode (canonical : (Value.object members).Canonical)
    (filled : ¬ NamesNull (.object members)) :
    (decode ((toJson {}).overlay (.object members))).toOption =
      (decode ((toJson {}).overlay (Value.object members).withoutNulls)).toOption := by
  have indifferent := indifferent_settings canonical filled
  cases this : decode ((toJson {}).overlay (.object members)) with
  | error mismatch =>
      cases that : decode ((toJson {}).overlay (Value.object members).withoutNulls) with
      | error other => rfl
      | ok settings =>
          obtain ⟨settings, decoded⟩ := indifferent.mpr ⟨settings, that⟩
          simp [this] at decoded
  | ok settings =>
      obtain ⟨other, that⟩ := indifferent.mp ⟨settings, this⟩
      -- A value states the same for each setting with its nulls as without them.
      have same : settings = other := by
        apply Setting.eq_of_get_eq
        intro setting
        have settles := (setting.settles_merged canonical this).withoutNulls canonical
        exact settles.unique (setting.settles_merged (canonical_withoutNulls _ canonical) that)
      rw [that, same]

theorem toOption_load {first second : FileNode} (environment : Environment)
    (same : (ofFile first).toOption = (ofFile second).toOption) :
    (load first environment).settings.toOption = (load second environment).settings.toOption := by
  rw [load, load]
  cases this : ofFile first with
  | error error =>
      cases that : ofFile second with
      | error other => rfl
      | ok base => simp [this, that, Except.toOption] at same
  | ok base =>
      cases that : ofFile second with
      | error other => simp [this, that, Except.toOption] at same
      | ok other =>
          obtain rfl : base = other := by simpa [this, that, Except.toOption] using same
          rfl

theorem toOption_ofText {text : String} {given : Value} (read : Value.read text = .ok given) :
    (ofText text).toOption = (decode ((toJson {}).overlay given)).toOption := by
  rw [ofText, read]
  cases decoded : decode ((toJson {}).overlay given) with
  | error mismatch => simp [decoded, Except.toOption]
  | ok settings => simp [decoded, Except.toOption]

/-- A file whose value is an object fails to load if it makes a level of a part of the
program null; otherwise it loads as the file does that has no nulls. -/
theorem load_withoutNulls {text stripped : String} {members : Members}
    (read : Value.read text = .ok (.object members))
    (readStripped : Value.read stripped = .ok (Value.object members).withoutNulls)
    (environment : Environment) :
    (NamesNull (.object members) →
      (load (.file (.text text)) environment).settings.toOption = none) ∧
    (¬ NamesNull (.object members) →
      (load (.file (.text text)) environment).settings.toOption =
        (load (.file (.text stripped)) environment).settings.toOption) := by
  have canonical := (fits_read read).1
  constructor
  · intro null
    have failed : ∀ settings, ofText text ≠ .ok settings := by
      intro settings understood
      exact decode_ne_ok_of_namesNull canonical null settings
        ((Setting.ofText_eq_ok_iff read).mp understood)
    rw [load, ofFile]
    cases given : ofText text with
    | error error => rfl
    | ok settings => exact absurd given (failed settings)
  · intro filled
    apply toOption_load
    rw [ofFile, ofFile, toOption_ofText read, toOption_ofText readStripped]
    exact toOption_decode canonical filled

/-- A level that is null, and what is left without it. -/
def nullLevel : Members := [("logging", .object [("modules", .object [("a", .null)])])]

def nullLevelText : String := (Value.object nullLevel).text

def noLevelText : String := (Value.object nullLevel).withoutNulls.text

/-- With the level that is null nothing is loaded, and without it the defaults. -/
theorem load_withoutNulls_level :
    Value.read nullLevelText = .ok (.object nullLevel) ∧
      Value.read noLevelText = .ok (Value.object nullLevel).withoutNulls ∧
      (load (.file (.text nullLevelText)) fun _ => none).settings.toOption = none ∧
      (load (.file (.text noLevelText)) fun _ => none).settings.toOption = some {} := by
  exact ⟨by rfl, by rfl, by decide +kernel, by decide +kernel⟩

/-- A null in place of a level of the log, and one in place of a section. -/
def nullSection : Members :=
  [("logging", .object [("level", .null), ("modules", .object [("a", .string "b")])]),
    ("session", .null)]

theorem load_withoutNulls_section :
    (load (.file (.text nullLevelText)) fun _ => none).settings.toOption = none ∧
      (load (.file (.text (Value.object nullSection).text)) fun _ => none).settings.toOption =
        (load (.file (.text (Value.object nullSection).withoutNulls.text))
          fun _ => none).settings.toOption := by
  constructor
  · apply (load_withoutNulls (by rfl : Value.read nullLevelText = .ok (.object nullLevel))
      (by rfl : Value.read noLevelText = _) _).1
    exact ⟨_, rfl, _, List.mem_singleton_self _, rfl⟩
  · apply (load_withoutNulls (by rfl : Value.read (Value.object nullSection).text =
      .ok (.object nullSection)) (by rfl) _).2
    rintro ⟨levels, stated, member, placed, null⟩
    cases stated
    obtain rfl := List.mem_singleton.mp placed
    cases null

end Settings

end PageSession
