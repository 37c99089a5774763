import PageSession.Proofs.Json.Decoding
import PageSession.Proofs.Settings.Written

/-!
# Each setting comes from the highest layer that gives it

The environment stands over the file, and the file over the defaults.  A variable
gives its setting if its text is acceptable, a file gives a setting if it states
something other than null for it, and no layer touches any other setting.
-/

namespace PageSession

/-- One of the settings. -/
inductive Setting where
  | baseUrl
  | reconnectDelay
  | keepAliveInterval
  | maxInactivity
  | loadTimeout
  | storagePath
  | logLevel
  | logJson
  | logModules
deriving DecidableEq, Repr

namespace Setting

def all : List Setting :=
  [.baseUrl, .reconnectDelay, .keepAliveInterval, .maxInactivity, .loadTimeout, .storagePath,
    .logLevel, .logJson, .logModules]

/-! ## In the settings, in a file and in the environment -/

/-- What a setting holds. -/
def Content : Setting → Type
  | .baseUrl => String
  | .reconnectDelay => Nat
  | .keepAliveInterval => Nat
  | .maxInactivity => Nat
  | .loadTimeout => Nat
  | .storagePath => Option String
  | .logLevel => String
  | .logJson => Bool
  | .logModules => List (String × String)

def get : (setting : Setting) → Settings → setting.Content
  | .baseUrl, settings => settings.connection.baseUrl
  | .reconnectDelay, settings => settings.connection.reconnectDelay
  | .keepAliveInterval, settings => settings.connection.keepAliveInterval
  | .maxInactivity, settings => settings.connection.maxInactivity
  | .loadTimeout, settings => settings.scripts.loadTimeout
  | .storagePath, settings => settings.session.storagePath
  | .logLevel, settings => settings.log.level
  | .logJson, settings => settings.log.json
  | .logModules, settings => settings.log.modules

/-- The name of a setting's section, and its place among the sections. -/
def sectionKey : Setting → String × Nat
  | .baseUrl | .reconnectDelay | .keepAliveInterval | .maxInactivity => ("transport", 0)
  | .loadTimeout => ("resources", 1)
  | .storagePath => ("session", 2)
  | .logLevel | .logJson | .logModules => ("logging", 3)

/-- The name of a setting within its section, and its place there. -/
def fieldKey : Setting → String × Nat
  | .baseUrl => ("baseUrl", 0)
  | .reconnectDelay => ("reconnectDelayMs", 1)
  | .keepAliveInterval => ("keepAliveIntervalMs", 2)
  | .maxInactivity => ("maxInactivityMs", 3)
  | .loadTimeout => ("scriptLoadTimeoutMs", 0)
  | .storagePath => ("storagePath", 0)
  | .logLevel => ("level", 0)
  | .logJson => ("json", 1)
  | .logModules => ("modules", 2)

/-- The JSON value that a setting is written as. -/
def written : (setting : Setting) → setting.Content → Json.Value
  | .baseUrl, text => .string text
  | .reconnectDelay, count => .nat count
  | .keepAliveInterval, count => .nat count
  | .maxInactivity, count => .nat count
  | .loadTimeout, count => .nat count
  | .storagePath, some path => .string path
  | .storagePath, none => .null
  | .logLevel, text => .string text
  | .logJson, flag => .bool flag
  | .logModules, levels => .object (levels.map fun (name, level) => (name, .string level))

/-- What a JSON value states for a setting. -/
def stated? (setting : Setting) (value : Json.Value) : Option Json.Value :=
  (value.part? setting.sectionKey.1 setting.sectionKey.2).bind fun fields =>
    fields.part? setting.fieldKey.1 setting.fieldKey.2

/-- What a file states for a setting. -/
def inFile? (setting : Setting) (file : FileNode) : Option Json.Value :=
  match file with
  | .file (.text text) =>
      match Json.Value.read text with
      | .ok value => setting.stated? value
      | .error _ => none
  | _ => none

def overriddenBy? : Setting → Option String
  | .baseUrl => some "PORTAL_URL"
  | .reconnectDelay => some "PORTAL_RECONNECT_DELAY_MS"
  | .keepAliveInterval => some "PORTAL_KEEP_ALIVE_MS"
  | .maxInactivity => some "PORTAL_MAX_INACTIVITY_MS"
  | .loadTimeout => some "PORTAL_SCRIPT_TIMEOUT_MS"
  | .storagePath => some "PORTAL_SESSION_FILE"
  | .logLevel => some "PORTAL_LOG_LEVEL"
  | .logJson => some "PORTAL_LOG_JSON"
  | .logModules => none

/-- Any text but the empty one. -/
def filled? (text : String) : Option String :=
  if text = "" then none else some text

def within? (least greatest : Nat) (text : String) : Option Nat :=
  (Text.unsigned? text).filter fun count => least ≤ count && count ≤ greatest

def truth? (text : String) : Option Bool :=
  if text.toLower ∈ ["true", "1", "yes", "on"] then some true
  else if text.toLower ∈ ["false", "0", "no", "off"] then some false
  else none

/-- What the text of a variable says, if it is acceptable. -/
def accepted? : (setting : Setting) → String → Option setting.Content
  | .baseUrl, text => filled? text
  | .reconnectDelay, text => within? 10 600000 text
  | .keepAliveInterval, text => within? 100 3600000 text
  | .maxInactivity, text => within? 0 86400000 text
  | .loadTimeout, text => within? 0 3600000 text
  | .storagePath, text => (filled? text).map some
  | .logLevel, text => filled? text
  | .logJson, text => truth? text
  | .logModules, _ => none

/-- How a text that is not acceptable is reported, unless it is passed over. -/
def report? : Setting → Option (String → String → EnvironmentIncident)
  | .reconnectDelay | .keepAliveInterval | .maxInactivity | .loadTimeout =>
      some .invalidCount
  | .logJson => some .invalidBool
  | .baseUrl | .storagePath | .logLevel | .logModules => none

/-- What the environment gives for a setting. -/
def fromEnvironment? (setting : Setting) (environment : Environment) :
    Option setting.Content :=
  (setting.overriddenBy?.bind environment).bind setting.accepted?

/-- The warning about a variable that is set to a number or truth value that is not
acceptable. -/
def rejection? (setting : Setting) (environment : Environment) : Option EnvironmentIncident := do
  let name ← setting.overriddenBy?
  let text ← environment name
  let report ← setting.report?
  if (setting.accepted? text).isNone then some (report name text) else none

end Setting

/-- A setting is what its variable says, if that is acceptable, else what the file
states, else the default. -/
def Setting.Layered (setting : Setting) (file : FileNode) (environment : Environment)
    (content : setting.Content) : Prop :=
  match setting.fromEnvironment? environment with
  | some given => content = given
  | none =>
      match setting.inFile? file with
      | some value => value = setting.written content
      | none => content = setting.get {}

/-- Every setting comes from its own highest layer. -/
def Settings.Layered (file : FileNode) (environment : Environment) (settings : Settings) :
    Prop :=
  ∀ setting : Setting, setting.Layered file environment (setting.get settings)

namespace Setting

open Json

theorem eq_of_get_eq {first second : Settings}
    (same : ∀ setting : Setting, setting.get first = setting.get second) : first = second := by
  obtain ⟨⟨_, _, _, _⟩, ⟨_⟩, ⟨_⟩, ⟨_, _, _⟩⟩ := first
  obtain ⟨⟨_, _, _, _⟩, ⟨_⟩, ⟨_⟩, ⟨_, _, _⟩⟩ := second
  cases same .baseUrl
  cases same .reconnectDelay
  cases same .keepAliveInterval
  cases same .maxInactivity
  cases same .loadTimeout
  cases same .storagePath
  cases same .logLevel
  cases same .logJson
  cases same .logModules
  rfl

theorem written_injective (setting : Setting) : Function.Injective setting.written := by
  intro first second same
  cases setting with
  | baseUrl | logLevel => exact Value.string.inj same
  | reconnectDelay | keepAliveInterval | maxInactivity | loadTimeout =>
      exact Int.ofNat.inj (Number.integer.inj (Value.number.inj same))
  | logJson => exact Value.bool.inj same
  | storagePath =>
      cases first <;> cases second <;> cases same <;> rfl
  | logModules =>
      have tables := Value.object.inj same
      have pairs : Function.Injective
          fun entry : String × String => (entry.1, Value.string entry.2) := by
        rintro ⟨_, _⟩ ⟨_, _⟩ equal
        cases equal
        rfl
      exact List.map_injective_iff.mpr pairs tables

/-! ## The file -/

/-- A setting is what a value writes, or the default without a value. -/
def Settles (setting : Setting) (value : Option Value) (content : setting.Content) : Prop :=
  Decode.Settled (fun value content => value = setting.written content) (setting.get {})
    value content

section Decoding

open Decode

variable {value : Value} {settings : Settings}

/-- A section is decoded from its own value. -/
theorem gives_section {β : Type} {name : String} {get : Settings → β}
    {decode : Value → Decoded β} {put : β → Settings → Settings} {absent : β}
    (got : ∀ content settings, get (put content settings) = content)
    (missing : ∀ content, decode .null ≠ .ok content) :
    Field.Gives get (fun value content => decode value = .ok content) absent
      ⟨name, fun value settings => decode value >>= fun content => .ok (put content settings)⟩ := by
  apply Field.gives_of_put got
  · intro value content decoded _
    exact decoded
  · intro content decoded
    exact absurd decoded (missing content)

theorem settled_connection (canonical : value.Canonical)
    (decoded : Settings.decode value = .ok settings) :
    Settled (fun value content => ConnectionSettings.decode value = .ok content) {}
      (value.part? "transport" 0) settings.connection := by
  apply settled_record Settings.connection [] _ [_, _, _] _ _ canonical decoded
  · simp [Apart, Field.keeps_of_put]
  · exact gives_section (fun _ _ => rfl) (record_null_ne_ok _ _ _)

theorem settled_scripts (canonical : value.Canonical)
    (decoded : Settings.decode value = .ok settings) :
    Settled (fun value content => ScriptSettings.decode value = .ok content) {}
      (value.part? "resources" 1) settings.scripts := by
  apply settled_record Settings.scripts [_] _ [_, _] _ _ canonical decoded
  · simp [Apart, Field.keeps_of_put]
  · exact gives_section (fun _ _ => rfl) (record_null_ne_ok _ _ _)

theorem settled_session (canonical : value.Canonical)
    (decoded : Settings.decode value = .ok settings) :
    Settled (fun value content => SessionSettings.decode value = .ok content) {}
      (value.part? "session" 2) settings.session := by
  apply settled_record Settings.session [_, _] _ [_] _ _ canonical decoded
  · simp [Apart, Field.keeps_of_put]
  · exact gives_section (fun _ _ => rfl) (record_null_ne_ok _ _ _)

theorem settled_log (canonical : value.Canonical)
    (decoded : Settings.decode value = .ok settings) :
    Settled (fun value content => LogSettings.decode value = .ok content) {}
      (value.part? "logging" 3) settings.log := by
  apply settled_record Settings.log [_, _, _] _ [] _ _ canonical decoded
  · simp [Apart, Field.keeps_of_put]
  · exact gives_section (fun _ _ => rfl) (record_null_ne_ok _ _ _)

/-- Only a default is written as null. -/
theorem eq_default_of_null {setting : Setting} {content : setting.Content}
    (null : Value.null = setting.written content) : content = setting.get {} := by
  cases setting with
  | storagePath =>
      cases content with
      | none => rfl
      | some path => cases null
  | _ => cases null

/-- A setting is decoded from the value that is its written form. -/
theorem gives_setting {α : Type} {name : String} (setting : Setting)
    {get : α → setting.Content} {decode : Value → Decoded setting.Content}
    {put : setting.Content → α → α}
    (got : ∀ content record, get (put content record) = content)
    (said : ∀ {value content}, decode value = .ok content → value = setting.written content) :
    Field.Gives get (fun value content => value = setting.written content) (setting.get {})
      ⟨name, fun value record => decode value >>= fun content => .ok (put content record)⟩ := by
  apply Field.gives_of_put got
  · intro value content decoded _
    exact said decoded
  · intro content decoded
    exact eq_default_of_null (said decoded)

theorem settles_decode (setting : Setting) (canonical : value.Canonical)
    (decoded : Settings.decode value = .ok settings) :
    setting.Settles (setting.stated? value) (setting.get settings) := by
  cases setting with
  | baseUrl =>
      apply settled_nested ConnectionSettings.baseUrl [] _ [_, _, _] canonical
        (settled_connection canonical decoded)
      · simp [Apart, Field.keeps_of_put]
      · exact gives_setting .baseUrl (fun _ _ => rfl) string_eq_ok_iff.mp
  | reconnectDelay =>
      apply settled_nested ConnectionSettings.reconnectDelay [_] _ [_, _] canonical
        (settled_connection canonical decoded)
      · simp [Apart, Field.keeps_of_put]
      · exact gives_setting .reconnectDelay (fun _ _ => rfl) count_eq_ok_iff.mp
  | keepAliveInterval =>
      apply settled_nested ConnectionSettings.keepAliveInterval [_, _] _ [_] canonical
        (settled_connection canonical decoded)
      · simp [Apart, Field.keeps_of_put]
      · exact gives_setting .keepAliveInterval (fun _ _ => rfl) count_eq_ok_iff.mp
  | maxInactivity =>
      apply settled_nested ConnectionSettings.maxInactivity [_, _, _] _ [] canonical
        (settled_connection canonical decoded)
      · simp [Apart, Field.keeps_of_put]
      · exact gives_setting .maxInactivity (fun _ _ => rfl) count_eq_ok_iff.mp
  | loadTimeout =>
      apply settled_nested ScriptSettings.loadTimeout [] _ [] canonical
        (settled_scripts canonical decoded)
      · exact Apart.nil
      · exact gives_setting .loadTimeout (fun _ _ => rfl) count_eq_ok_iff.mp
  | storagePath =>
      apply settled_nested SessionSettings.storagePath [] _ [] canonical
        (settled_session canonical decoded)
      · exact Apart.nil
      · apply gives_setting .storagePath (fun _ _ => rfl)
        intro value content given
        rw [optional_path_eq_ok_iff.mp given]
        cases content <;> rfl
  | logLevel =>
      apply settled_nested LogSettings.level [] _ [_, _] canonical
        (settled_log canonical decoded)
      · simp [Apart, Field.keeps_of_put]
      · exact gives_setting .logLevel (fun _ _ => rfl) string_eq_ok_iff.mp
  | logJson =>
      apply settled_nested LogSettings.json [_] _ [_] canonical
        (settled_log canonical decoded)
      · simp [Apart, Field.keeps_of_put]
      · exact gives_setting .logJson (fun _ _ => rfl) boolean_eq_ok_iff.mp
  | logModules =>
      apply settled_nested LogSettings.modules [_, _] _ [] canonical
        (settled_log canonical decoded)
      · simp [Apart, Field.keeps_of_put]
      · exact gives_setting .logModules (fun _ _ => rfl) table_string_eq_ok_iff.mp

end Decoding

section Merging

/-- Nothing but the default of a setting, and no object, stands in its place. -/
def Holds (setting : Setting) (base : Members) : Prop :=
  ∀ held ∈ Members.get? setting.fieldKey.1 base,
    held = setting.written (setting.get {}) ∧ ∀ members, held ≠ .object members

/-- The written defaults have the section of every setting. -/
theorem exists_default (setting : Setting) :
    ∃ base, Members.get? setting.sectionKey.1 (Members.ofList (Settings.members {})) =
      some (.object base) ∧ setting.Holds base := by
  cases setting with
  | baseUrl | reconnectDelay | keepAliveInterval | maxInactivity =>
      refine ⟨Members.ofList (ConnectionSettings.members {}), rfl, ?_⟩
      rintro _ ⟨⟩
      exact ⟨rfl, nofun⟩
  | loadTimeout =>
      refine ⟨Members.ofList (ScriptSettings.members {}), rfl, ?_⟩
      rintro _ ⟨⟩
      exact ⟨rfl, nofun⟩
  | storagePath => exact ⟨[], rfl, nofun⟩
  | logLevel | logJson =>
      refine ⟨Members.ofList (LogSettings.members {}), rfl, ?_⟩
      rintro _ ⟨⟩
      exact ⟨rfl, nofun⟩
  | logModules => exact ⟨Members.ofList (LogSettings.members {}), rfl, nofun⟩

variable {setting : Setting} {base : Members}

theorem Holds.stated? (holds : setting.Holds base) :
    Members.stated? setting.fieldKey.1 base = none ∨
      Members.stated? setting.fieldKey.1 base = some (setting.written (setting.get {})) := by
  cases stated : Members.stated? setting.fieldKey.1 base with
  | none => exact .inl rfl
  | some held =>
      exact .inr (congrArg some (holds held (get?_of_stated? stated)).1)

theorem Holds.over (holds : setting.Holds base) (value : Value) :
    value.over (Members.get? setting.fieldKey.1 base) = value :=
  Value.over_of_bare (fun held found => (holds held found).2) value

/-- A layer over another states what it states alone, and where it states nothing the
default, if anything. -/
def Over (setting : Setting) (above alone : Option Value) : Prop :=
  above = alone ∨ alone = none ∧ above = some (setting.written (setting.get {}))

/-- Over the defaults of a section. -/
theorem Holds.over_part? (holds : setting.Holds base) {value : Value}
    (canonical : value.Canonical) :
    setting.Over
      (((Value.object base).overlay value).part? setting.fieldKey.1 setting.fieldKey.2)
      (value.part? setting.fieldKey.1 setting.fieldKey.2) := by
  cases value with
  | object members =>
      rw [overlay_object]
      simp only [Value.part?, stated?_overlayMembers (canonical_object.mp canonical).1, Over]
      cases Members.stated? setting.fieldKey.1 members with
      | some value => exact .inl (congrArg some (holds.over value))
      | none => exact holds.stated?.imp id fun default => ⟨rfl, default⟩
  | _ => exact .inl rfl

/-- Over all defaults. -/
theorem over_stated? (setting : Setting) {given : Value} (canonical : given.Canonical) :
    setting.Over (setting.stated? ((Settings.toJson {}).overlay given))
      (setting.stated? given) := by
  cases given with
  | object upper =>
      obtain ⟨base, placed, holds⟩ := setting.exists_default
      have whole : (Value.object upper).part? setting.sectionKey.1 setting.sectionKey.2 =
          Members.stated? setting.sectionKey.1 upper := rfl
      rw [Settings.toJson, Value.ofMembers, overlay_object]
      simp only [Setting.stated?, Value.part?,
        stated?_overlayMembers (canonical_object.mp canonical).1, placed]
      cases stated : Members.stated? setting.sectionKey.1 upper with
      | some value => exact holds.over_part? (canonical_part? canonical (whole.trans stated))
      | none =>
          have empty : Members.stated? setting.sectionKey.1
              (Members.ofList (Settings.members {})) = some (.object base) := by
            simp [Members.stated?, placed, Option.filter, Value.isNull]
          rw [empty]
          exact holds.stated?.imp id fun default => ⟨rfl, default⟩
  | _ => exact .inl rfl

/-- The defaults below a file change nothing about what it means. -/
theorem Over.settles {above alone : Option Value} {content : setting.Content}
    (laid : setting.Over above alone) (settles : setting.Settles above content) :
    setting.Settles alone content := by
  rcases laid with rfl | ⟨rfl, rfl⟩
  · exact settles
  · exact (setting.written_injective settles).symm

end Merging

/-- What decodes over the defaults gives every setting what it states for it. -/
theorem settles_merged (setting : Setting) {given : Value} {settings : Settings}
    (canonical : given.Canonical)
    (decoded : Settings.decode ((Settings.toJson {}).overlay given) = .ok settings) :
    setting.Settles (setting.stated? given) (setting.get settings) := by
  apply (setting.over_stated? canonical).settles
  apply setting.settles_decode _ decoded
  exact canonical_overlay (Settings.canonical_toJson Settings.proper_default) _ canonical

theorem ofText_eq_ok_iff {text : String} {given : Value} {settings : Settings}
    (read : Value.read text = .ok given) :
    Settings.ofText text = .ok settings ↔
      Settings.decode ((Settings.toJson {}).overlay given) = .ok settings := by
  rw [Settings.ofText, read]
  cases decoded : Settings.decode ((Settings.toJson {}).overlay given) with
  | error mismatch => simp [decoded]
  | ok settings => simp [decoded]

/-- A file that can be understood gives every setting what it states for it. -/
theorem settles_ofFile (setting : Setting) {file : FileNode} {base : Settings}
    (understood : Settings.ofFile file = .ok base) :
    setting.Settles (setting.inFile? file) (setting.get base) := by
  cases file with
  | file content =>
      cases content with
      | binary bytes => cases understood
      | text text =>
          cases read : Value.read text with
          | error defect => simp [Settings.ofFile, Settings.ofText, read] at understood
          | ok given =>
              simp only [inFile?, read]
              exact setting.settles_merged (fits_read read).1
                ((ofText_eq_ok_iff read).mp understood)
  | directory | sealed _ => cases understood
  | absent | barred _ | unreachable _ =>
      cases understood
      rfl

/-! ## One layer over another -/

section Laying

/-- Make a setting something else. -/
def put : (setting : Setting) → setting.Content → Settings → Settings
  | .baseUrl, text => Override.setBaseUrl text
  | .reconnectDelay, count => Override.setReconnectDelay count
  | .keepAliveInterval, count => Override.setKeepAliveInterval count
  | .maxInactivity, count => Override.setMaxInactivity count
  | .loadTimeout, count => Override.setLoadTimeout count
  | .storagePath, path => fun settings => { settings with session := { storagePath := path } }
  | .logLevel, text => Override.setLogLevel text
  | .logJson, flag => Override.setLogJson flag
  | .logModules, levels => fun settings =>
      { settings with log := { settings.log with modules := levels } }

@[simp] theorem get_put_self (setting : Setting) (content : setting.Content)
    (settings : Settings) : setting.get (setting.put content settings) = content := by
  cases setting <;> rfl

theorem get_put_of_ne {setting other : Setting} (different : other ≠ setting)
    (content : setting.Content) (settings : Settings) :
    other.get (setting.put content settings) = other.get settings := by
  cases setting <;> cases other <;> first | rfl | exact absurd rfl different

/-- The settings with what a layer gives for one setting. -/
def lay (layer : (setting : Setting) → Option setting.Content) (settings : Settings)
    (setting : Setting) : Settings :=
  match layer setting with
  | some content => setting.put content settings
  | none => settings

variable {layer : (setting : Setting) → Option setting.Content}

theorem get_lay_of_ne {setting other : Setting} (different : other ≠ setting)
    (settings : Settings) : other.get (lay layer settings setting) = other.get settings := by
  rw [lay]
  split
  · exact get_put_of_ne different _ settings
  · rfl

theorem get_foldl_of_notMem {setting : Setting} {settings : List Setting}
    (absent : setting ∉ settings) (base : Settings) :
    setting.get (settings.foldl (lay layer) base) = setting.get base := by
  induction settings generalizing base with
  | nil => rfl
  | cons first rest ih =>
      obtain ⟨different, later⟩ := not_or.mp fun placed => absent (List.mem_cons.mpr placed)
      rw [List.foldl_cons, ih later, get_lay_of_ne different]

theorem get_foldl_of_mem {setting : Setting} {settings : List Setting}
    (distinct : settings.Nodup) (placed : setting ∈ settings) (base : Settings) :
    setting.get (settings.foldl (lay layer) base) =
      (layer setting).getD (setting.get base) := by
  induction settings generalizing base with
  | nil => cases placed
  | cons first rest ih =>
      obtain ⟨absent, distinct⟩ := List.nodup_cons.mp distinct
      rw [List.foldl_cons]
      rcases List.mem_cons.mp placed with rfl | later
      · rw [get_foldl_of_notMem absent, lay]
        split <;> simp [*]
      · have different : setting ≠ first := by
          rintro rfl
          exact absent later
        rw [ih distinct later, get_lay_of_ne different]

/-- A layer that gives nothing but some settings stands over what was there. -/
theorem get_foldl {settings : List Setting} (distinct : settings.Nodup)
    (setting : Setting) (outside : setting ∉ settings → layer setting = none)
    (base : Settings) :
    setting.get (settings.foldl (lay layer) base) =
      (layer setting).getD (setting.get base) := by
  by_cases placed : setting ∈ settings
  · exact get_foldl_of_mem distinct placed base
  · rw [get_foldl_of_notMem placed, outside placed, Option.getD_none]

end Laying

/-! ## The environment -/

section Overriding

variable {environment : Environment}

/-- What applying the text of a variable to a setting comes to. -/
def outcome (setting : Setting) (name text : String) (settings : Settings) :
    Except EnvironmentIncident Settings :=
  match setting.accepted? text with
  | some content => .ok (setting.put content settings)
  | none =>
      match setting.report? with
      | some report => .error (report name text)
      | none => .ok settings

/-- An override is the one of a setting. -/
structure Overrides (setting : Setting) (entry : String × Override) : Prop where
  named : setting.overriddenBy? = some entry.1
  applied : ∀ text settings,
    entry.2.apply entry.1 text settings = setting.outcome entry.1 text settings

theorem Overrides.applyOne {setting : Setting} {entry : String × Override}
    (overrides : setting.Overrides entry) (settings : Settings) :
    environment.applyOne settings entry.1 entry.2 =
      (lay (·.fromEnvironment? environment) settings setting,
        (setting.rejection? environment).toList) := by
  rw [Environment.applyOne, lay, fromEnvironment?, rejection?, overrides.named]
  cases found : environment entry.1 with
  | none => simp [found]
  | some text =>
      cases accepted : setting.accepted? text with
      | some content => simp [found, accepted, overrides.applied, outcome]
      | none =>
          cases reported : setting.report? with
          | none => simp [found, accepted, reported, overrides.applied, outcome]
          | some report => simp [found, accepted, reported, overrides.applied, outcome]

theorem parseCount?_eq_within? {least greatest : Nat} (small : greatest ≤ greatestCount)
    (text : String) : parseCount? least greatest text = within? least greatest text := by
  rw [parseCount?, within?]
  cases Text.unsigned? text with
  | none => rfl
  | some value =>
      have counted : value ≤ greatest → value ≤ greatestCount := fun le => Nat.le_trans le small
      by_cases inside : least ≤ value ∧ value ≤ greatest
      · simp [Option.filter, inside, counted]
      · simp only [Bool.and_eq_true, decide_eq_true_eq, Option.filter]
        rw [if_neg fun within => inside ⟨within.1.2, within.2⟩, if_neg inside]

theorem parseBool?_eq_truth? (text : String) : parseBool? text = truth? text := by
  simp [parseBool?, truth?, or_assoc]

theorem overrides_count {setting : Setting} {name : String} {least greatest : Nat}
    {set : Nat → Settings → Settings} (named : setting.overriddenBy? = some name)
    (small : greatest ≤ greatestCount)
    (inside : ∀ {text count}, within? least greatest text = some count → ∀ settings,
      setting.outcome name text settings = .ok (set count settings))
    (outside : ∀ {text}, within? least greatest text = none → ∀ settings,
      setting.outcome name text settings = .error (.invalidCount name text)) :
    setting.Overrides (name, .count least greatest set) := by
  constructor
  · exact named
  · intro text settings
    simp only [Override.apply, parseCount?_eq_within? small]
    cases read : within? least greatest text with
    | some count => exact (inside read settings).symm
    | none => exact (outside read settings).symm

theorem overrides_text {setting : Setting} {name : String} {set : String → Settings → Settings}
    (named : setting.overriddenBy? = some name)
    (filled : ∀ {text}, text ≠ "" → ∀ settings,
      setting.outcome name text settings = .ok (set text settings))
    (empty : ∀ settings, setting.outcome name "" settings = .ok settings) :
    setting.Overrides (name, .text set) := by
  constructor
  · exact named
  · intro text settings
    by_cases missing : text = ""
    · simp [Override.apply, missing, empty]
    · simp [Override.apply, missing, filled missing]

theorem applyAll_eq {settings : List Setting} {entries : List (String × Override)}
    (aligned : List.Forall₂ Overrides settings entries) (base : Settings) :
    environment.applyAll base entries =
      (settings.foldl (lay (·.fromEnvironment? environment)) base,
        settings.filterMap (·.rejection? environment)) := by
  induction aligned generalizing base with
  | nil => rfl
  | cons first rest ih =>
      rw [Environment.applyAll, first.applyOne]
      simp only [ih, List.foldl_cons, List.filterMap_cons]
      split <;> simp [*]

/-- The settings that have a variable. -/
def overridable : List Setting :=
  Setting.all.filter fun setting => setting.overriddenBy?.isSome

theorem overrides_all : List.Forall₂ Overrides overridable Override.all := by
  refine .cons ?url (.cons ?reconnect (.cons ?keepAlive (.cons ?inactivity (.cons ?timeout
    (.cons ?path (.cons ?level (.cons ?json .nil)))))))
  case url | level =>
    apply overrides_text rfl
    · intro text filled settings
      simp [outcome, accepted?, filled?, filled, put]
    · exact fun _ => rfl
  case path =>
    apply overrides_text rfl
    · intro text filled settings
      have accepted : storagePath.accepted? text = some (some text) := by
        rw [accepted?, filled?, if_neg filled]
        rfl
      simp only [outcome, accepted]
      rfl
    · exact fun _ => rfl
  case reconnect | keepAlive | inactivity | timeout =>
    apply overrides_count rfl (by decide)
    · intro text count inside settings
      simp [outcome, accepted?, inside, put]
    · intro text outside settings
      simp [outcome, accepted?, outside, report?]
  case json =>
    constructor
    · rfl
    · intro text settings
      simp only [Override.apply, parseBool?_eq_truth?]
      cases read : truth? text with
      | some flag => simp [outcome, accepted?, read, put]
      | none => simp [outcome, accepted?, read, report?]

theorem override_eq (environment : Environment) (base : Settings) :
    environment.override base =
      (overridable.foldl (lay (·.fromEnvironment? environment)) base,
        Setting.all.filterMap (·.rejection? environment)) := by
  rw [Environment.override, applyAll_eq overrides_all]
  have last : logModules.rejection? environment = none := rfl
  have split : Setting.all = overridable ++ [logModules] := rfl
  rw [split, List.filterMap_append]
  simp [last]

/-- What the environment gives stands over what was there. -/
theorem get_override (setting : Setting) (base : Settings) :
    setting.get (environment.override base).1 =
      (setting.fromEnvironment? environment).getD (setting.get base) := by
  rw [override_eq]
  apply get_foldl (by decide)
  intro outside
  have unnamed : setting.overriddenBy? = none := by
    cases setting <;> first | rfl | exact absurd (by decide) outside
  rw [fromEnvironment?, unnamed]
  rfl

end Overriding

end Setting

/-! ## All layers -/

theorem EnvironmentIncident.level_line (incident : EnvironmentIncident) :
    incident.line.level = .warn := by
  cases incident <;> rfl

theorem Setting.Settles.unique {setting : Setting} {value : Option Json.Value}
    {first second : setting.Content} (one : setting.Settles value first)
    (other : setting.Settles value second) : first = second := by
  cases value with
  | some value => exact setting.written_injective (Eq.trans (Eq.symm one) other)
  | none => exact Eq.trans one (Eq.symm other)

theorem Setting.Layered.unique {setting : Setting} {file : FileNode}
    {environment : Environment} {first second : setting.Content}
    (one : setting.Layered file environment first)
    (other : setting.Layered file environment second) : first = second := by
  rw [Setting.Layered] at one other
  cases given : setting.fromEnvironment? environment with
  | some content =>
      simp only [given] at one other
      exact one.trans other.symm
  | none =>
      simp only [given] at one other
      exact Setting.Settles.unique one other

namespace Settings

variable {file : FileNode} {environment : Environment}

theorem Layered.unique {first second : Settings} (one : first.Layered file environment)
    (other : second.Layered file environment) : first = second := by
  apply Setting.eq_of_get_eq
  intro setting
  exact (one setting).unique (other setting)

theorem layered_override (environment : Environment) {base : Settings}
    (understood : Settings.ofFile file = .ok base) :
    (environment.override base).1.Layered file environment := by
  intro setting
  have settles := setting.settles_ofFile understood
  rw [setting.get_override, Setting.Layered]
  cases given : setting.fromEnvironment? environment with
  | some content => rfl
  | none => exact settles

/-- Why a file gives no settings: it cannot be opened, it holds no text, its text is no
JSON, or its values, laid over the defaults, have a wrong type. -/
def Refuses (file : FileNode) (error : SettingsError) : Prop :=
  match file with
  | .directory => error = .file .isDirectory
  | .sealed failure => error = .file failure
  | .file (.binary _) => error = .file .invalidText
  | .file (.text text) =>
      (∃ defect, Json.Value.read text = .error defect ∧ error = .form defect) ∨
        ∃ given mismatch, Json.Value.read text = .ok given ∧
          decode ((toJson {}).overlay given) = .error mismatch ∧ error = .mismatch mismatch
  | .absent | .barred _ | .unreachable _ => False

theorem ofFile_eq_error_iff {error : SettingsError} :
    ofFile file = .error error ↔ Refuses file error := by
  cases file with
  | file content =>
      cases content with
      | binary bytes => simp [ofFile, Refuses, eq_comm]
      | text text =>
          rw [ofFile, ofText]
          cases read : Json.Value.read text with
          | error defect => simp [Refuses, read, eq_comm]
          | ok given =>
              cases decoded : decode ((toJson {}).overlay given) with
              | error mismatch => simp [Refuses, read, decoded, eq_comm]
              | ok settings => simp [Refuses, read, decoded]
  | directory | sealed _ => simp [ofFile, Refuses, eq_comm]
  | _ => simp [ofFile, Refuses]

/-- A refused file fails the load, whatever the environment holds.  Otherwise there is
one way to take each setting from its highest layer; the load gives these settings if
they can be used, and warns once of every variable that is not acceptable. -/
theorem load_layered (file : FileNode) (environment : Environment) :
    (∀ error, Refuses file error → load file environment = { settings := .error error }) ∧
    ((∀ error, ¬ Refuses file error) →
      ∃ layered : Settings,
        (∀ settings : Settings, settings.Layered file environment ↔ settings = layered) ∧
        load file environment =
          { settings := layered.validate.map fun _ => layered
            incidents := Setting.all.filterMap (·.rejection? environment) }) ∧
    (∀ settings, (load file environment).settings = .ok settings →
      settings.Layered file environment ∧ settings.validate = .ok ()) ∧
    ∀ incident ∈ (load file environment).incidents, incident.line.level = .warn := by
  refine ⟨?refused, ?accepted, ?loaded, fun incident _ => incident.level_line⟩
  case refused =>
    intro error refused
    rw [load, ofFile_eq_error_iff.mpr refused]
  case accepted =>
    intro accepted
    cases read : ofFile file with
    | error error => exact absurd (ofFile_eq_error_iff.mp read) (accepted error)
    | ok base =>
        have layered := layered_override environment read
        refine ⟨(environment.override base).1, ?_, ?_⟩
        · intro settings
          constructor
          · intro other
            exact other.unique layered
          · rintro rfl
            exact layered
        · have reported := congrArg Prod.snd (Setting.override_eq environment base)
          rw [load, read]
          simp only [reported]
  case loaded =>
    intro settings loaded
    cases read : ofFile file with
    | error error => simp [load, read] at loaded
    | ok base =>
        simp only [load, read] at loaded
        obtain ⟨_, valid, rfl⟩ := Json.Decode.exists_of_map_eq_ok loaded
        exact ⟨layered_override environment read, valid⟩

/-- A file with a null, a level of the log and an interval that cannot be used. -/
def mixedFile : FileNode :=
  .file (.text
    "\x7b\"transport\":\x7b\"keepAliveIntervalMs\":0,\"reconnectDelayMs\":null\x7d,\"logging\":\x7b\"level\":\"warn\"\x7d\x7d")

/-- An environment with an interval that can be used, and with no truth value. -/
def mixedEnvironment : Environment := fun name =>
  if name = "PORTAL_KEEP_ALIVE_MS" then some "200"
  else if name = "PORTAL_LOG_JSON" then some "maybe"
  else none

/-- A directory is refused; of the mixed layers every one counts. -/
theorem load_mixed :
    load .directory mixedEnvironment = { settings := .error (.file .isDirectory) } ∧
      ∃ settings : Settings, (load mixedFile mixedEnvironment).settings = .ok settings ∧
        (∀ other : Settings, other.Layered mixedFile mixedEnvironment ↔ other = settings) ∧
        settings.connection.keepAliveInterval = 200 ∧ settings.log.level = "warn" ∧
        (load mixedFile mixedEnvironment).incidents =
          [.invalidBool "PORTAL_LOG_JSON" "maybe"] := by
  have outcome : ((load mixedFile mixedEnvironment).settings.toOption,
      (load mixedFile mixedEnvironment).incidents) =
      (some { connection := { keepAliveInterval := 200 }, log := { level := "warn" } },
        [.invalidBool "PORTAL_LOG_JSON" "maybe"]) := by
    decide +kernel
  obtain ⟨loaded, reported⟩ := Prod.mk.inj outcome
  have accepted : ∀ error, ¬ Refuses mixedFile error := by
    intro error refused
    rw [(load_layered mixedFile mixedEnvironment).1 error refused] at loaded
    cases loaded
  obtain ⟨layered, unique, -⟩ := (load_layered mixedFile mixedEnvironment).2.1 accepted
  refine ⟨(load_layered .directory mixedEnvironment).1 _ rfl, ?_⟩
  cases found : (load mixedFile mixedEnvironment).settings with
  | error error => simp [found, Except.toOption] at loaded
  | ok settings =>
      have given := ((load_layered mixedFile mixedEnvironment).2.2.1 settings found).1
      obtain rfl := (unique settings).mp given
      obtain rfl : settings = _ := by simpa [found, Except.toOption] using loaded
      exact ⟨_, rfl, unique, rfl, rfl, reported⟩

end Settings

end PageSession
