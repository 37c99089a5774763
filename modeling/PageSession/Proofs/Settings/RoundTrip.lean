import PageSession.Proofs.Json.Lines
import PageSession.Proofs.Settings.Defaults
import PageSession.Proofs.Settings.Written

/-!
# Settings that are written are loaded again

The members of a settings file may stand in any order, and every one that is left out
when settings are written has its default there.  Hence the file gives the settings it
was written from, although it is laid over defaults that are not empty.
-/

namespace PageSession

namespace Json

theorem filled_ofMembers {pairs : List (String × Value)}
    (present : ∀ pair ∈ pairs, pair.2 ≠ .null) (inner : ∀ pair ∈ pairs, pair.2.Filled) :
    (Value.ofMembers pairs).Filled :=
  filled_object.mpr
    ⟨fun _ placed => present _ (mem_of_mem_ofList placed),
      fun _ placed => inner _ (mem_of_mem_ofList placed)⟩

end Json

namespace Settings

open Json Json.Decode

variable {settings : Settings} {environment : Environment}

/-! ## The text of a settings file -/

theorem sorted_declared (proper : settings.Proper) :
    settings.declared.sorted = settings.toJson := by
  have same : ∀ part ∈ settings.sections,
      (part.1, (Value.object part.2).sorted) = (part.1, Value.ofMembers part.2) := by
    intro part placed
    have inner := membersSorted_of_forall fun member inside =>
      sorted_of_canonical (canonical_sections proper part placed member inside)
    rw [Value.sorted, inner]
    rfl
  rw [declared, Value.sorted, membersSorted_eq_map, List.map_map]
  exact congrArg Value.ofMembers (List.map_congr_left same)

theorem narrow_declared (proper : settings.Proper) : settings.declared.Narrow := by
  apply narrow_object.mpr
  intro member placed
  obtain ⟨part, inside, rfl⟩ := List.mem_map.mp placed
  apply narrow_object.mpr
  intro member placed
  exact (canonical_sections proper part inside member placed).narrow

theorem exact_declared (proper : settings.Proper) : settings.declared.Exact := by
  apply exact_object.mpr
  intro member placed
  obtain ⟨part, inside, rfl⟩ := List.mem_map.mp placed
  apply exact_object.mpr
  apply forall_sections proper Value.Exact _ _ _ _ part inside
  · simp [Value.Exact, Value.parts, Value.isFloat]
  · simp [Value.Exact, Value.parts, Value.isFloat]
  · simp [Value.Exact, Value.parts, Value.isFloat, Value.nat]
  · apply exact_object.mpr
    intro member placed
    obtain ⟨level, written⟩ := exists_of_mem_levels placed
    simp [written, Value.Exact, Value.parts, Value.isFloat]

theorem depth_declared (proper : settings.Proper) : settings.declared.depth ≤ 3 := by
  rw [declared, Value.depth, Nat.succ_le_succ_iff, membersDepth_le_iff]
  intro member placed
  obtain ⟨part, inside, rfl⟩ := List.mem_map.mp placed
  rw [Value.depth, Nat.succ_le_succ_iff, membersDepth_le_iff]
  apply forall_sections proper (·.depth ≤ 1) _ _ _ _ part inside
  · simp [Value.depth]
  · simp [Value.depth]
  · simp [Value.depth, Value.nat]
  · rw [Value.depth, Nat.succ_le_succ_iff, membersDepth_le_iff]
    intro member placed
    obtain ⟨level, written⟩ := exists_of_mem_levels placed
    simp [written, Value.depth]

/-- Written in one line or in lines, the settings are the same to a reader. -/
theorem scan_written (proper : settings.Proper) {write : Value → String}
    (layout : write ∈ [Value.text, Value.linedText]) :
    Token.scan (write settings.declared) = settings.declared.tokens := by
  have narrow := narrow_declared proper
  have exact := exact_declared proper
  simp only [List.mem_cons, List.not_mem_nil, or_false] at layout
  rcases layout with rfl | rfl
  · exact scan_text narrow exact
  · exact scan_linedText narrow exact

/-! ## Decoding it again -/

/-- The members of a connection in the order of their keys. -/
theorem ofMembers_connection (settings : ConnectionSettings) :
    Value.ofMembers settings.members =
      .object
        [("baseUrl", .string settings.baseUrl),
          ("keepAliveIntervalMs", .nat settings.keepAliveInterval),
          ("maxInactivityMs", .nat settings.maxInactivity),
          ("reconnectDelayMs", .nat settings.reconnectDelay)] := by
  simp +decide only [Value.ofMembers, ConnectionSettings.members, Members.ofList, Members.insert,
    List.foldl_cons, List.foldl_nil, if_true, if_false]

theorem decode_connection (settings : ConnectionSettings) :
    ConnectionSettings.decode (.ofMembers settings.members) = .ok settings := by
  rw [ofMembers_connection]
  rfl

theorem decode_scripts (settings : ScriptSettings) :
    ScriptSettings.decode (.ofMembers settings.members) = .ok settings :=
  rfl

theorem decode_session (settings : SessionSettings) :
    SessionSettings.decode (.ofMembers settings.members) = .ok settings := by
  obtain ⟨path⟩ := settings
  cases path <;> rfl

/-- The members of a log in the order of their keys. -/
theorem ofMembers_log (settings : LogSettings) :
    Value.ofMembers settings.members =
      .object
        ([("json", .bool settings.json), ("level", .string settings.level)] ++
          if settings.modules.isEmpty then []
          else [("modules", .object (settings.modules.map fun (name, level) =>
            (name, .string level)))]) := by
  obtain ⟨level, json, modules⟩ := settings
  cases modules <;>
    simp +decide only [Value.ofMembers, LogSettings.members, Members.ofList, Members.insert,
      List.foldl_cons, List.foldl_nil, List.map_cons, List.map_nil, List.isEmpty_nil,
      List.isEmpty_cons, List.cons_append, List.nil_append, List.append_nil, if_true, if_false]

theorem decode_log (settings : LogSettings) :
    LogSettings.decode (.ofMembers settings.members) = .ok settings := by
  obtain ⟨level, json, modules⟩ := settings
  have given : ∀ table, Decode.table string table = .ok modules →
      LogSettings.decode
          (.object [("json", .bool json), ("level", .string level), ("modules", table)]) =
        .ok { level, json, modules } := by
    intro table decoded
    simp [LogSettings.decode, LogSettings.fields, record, Decode.members, boolean, string, decoded,
      bind, Except.bind, pure, Except.pure]
  rw [ofMembers_log]
  cases modules with
  | nil => rfl
  | cons entry entries => exact given _ (table_string_eq_ok_iff.mpr rfl)

/-- The sections in the order of their names. -/
theorem toJson_eq (settings : Settings) :
    settings.toJson =
      .object
        [("logging", .ofMembers settings.log.members),
          ("resources", .ofMembers settings.scripts.members),
          ("session", .ofMembers settings.session.members),
          ("transport", .ofMembers settings.connection.members)] := by
  simp +decide only [toJson, Settings.members, Value.ofMembers, Members.ofList, Members.insert,
    List.foldl_cons, List.foldl_nil, if_true, if_false]

theorem decode_toJson (settings : Settings) : decode settings.toJson = .ok settings := by
  rw [toJson_eq]
  simp [decode, record, Decode.members, fields, decode_log, decode_scripts, decode_session,
    decode_connection, bind, Except.bind, pure, Except.pure]

/-! ## Loading it again -/

/-- No value that is written is null. -/
theorem filled_toJson (proper : settings.Proper) : settings.toJson.Filled := by
  have inner : ∀ part ∈ settings.sections, (Value.ofMembers part.2).Filled := by
    intro part inside
    apply filled_ofMembers
    · apply forall_sections proper (· ≠ .null) _ _ _ _ part inside <;> simp [Value.nat]
    · apply forall_sections proper Value.Filled _ _ _ _ part inside
      · simp [Value.Filled, Value.parts]
      · simp [Value.Filled, Value.parts]
      · simp [Value.Filled, Value.parts, Value.nat]
      · apply filled_object.mpr
        constructor
        · intro member placed
          obtain ⟨level, written⟩ := exists_of_mem_levels placed
          simp [written]
        · intro member placed
          obtain ⟨level, written⟩ := exists_of_mem_levels placed
          simp [written, Value.Filled, Value.parts]
  rw [toJson_eq_sections]
  apply filled_ofMembers
  · intro member placed
    obtain ⟨part, -, rfl⟩ := List.mem_map.mp placed
    simp [Value.ofMembers]
  · intro member placed
    obtain ⟨part, inside, rfl⟩ := List.mem_map.mp placed
    exact inner part inside

/-- Over the defaults, written settings mean what they mean alone. -/
theorem decode_overlay_toJson (proper : settings.Proper) :
    decode ((toJson {}).overlay settings.toJson) = .ok settings := by
  -- What is left out when settings are written has its default in them, so it does not
  -- matter which of the two supplies it.
  have canonical := canonical_toJson proper
  have alone := decode_toJson settings
  obtain ⟨other, merged⟩ := (agrees_decode canonical (filled_toJson proper)).mpr ⟨settings, alone⟩
  rw [merged, eq_of_decode_overlay canonical merged alone]

theorem ofText_of_scan (proper : settings.Proper) {text : String}
    (scanned : Token.scan text = settings.declared.tokens) : ofText text = .ok settings := by
  have shallow : settings.declared.depth ≤ Assembly.depthLimit :=
    Nat.le_trans (depth_declared proper) (by decide)
  have read := read_of_scan scanned shallow
  rw [sorted_declared proper] at read
  exact (Setting.ofText_eq_ok_iff read).mpr (decode_overlay_toJson proper)

theorem applyAll_of_unset {entries : List (String × Override)}
    (unset : ∀ entry ∈ entries, environment entry.1 = none) (settings : Settings) :
    environment.applyAll settings entries = (settings, []) := by
  induction entries with
  | nil => rfl
  | cons entry entries ih =>
      obtain ⟨first, rest⟩ := List.forall_mem_cons.mp unset
      simp [Environment.applyAll, Environment.applyOne, first, ih rest]

/-- Settings that can be used are loaded from every text with their tokens, hence from
both texts that they are written as, if no variable overrides any of them; and what is
loaded is written again as the same text. -/
theorem load_written (proper : settings.Proper) (valid : settings.validate = .ok ())
    (unset : ∀ entry ∈ Override.all, environment entry.1 = none) :
    (∀ text, Token.scan text = settings.declared.tokens →
      load (.file (.text text)) environment = { settings := .ok settings }) ∧
    ∀ write ∈ [Value.text, Value.linedText],
      load (.file (.text (write settings.declared))) environment =
        { settings := .ok settings } ∧
      (load (.file (.text (write settings.declared))) environment).settings.map
        (fun loaded => write loaded.declared) = .ok (write settings.declared) := by
  have loaded : ∀ text, Token.scan text = settings.declared.tokens →
      load (.file (.text text)) environment = { settings := .ok settings } := by
    intro text scanned
    simp only [load, ofFile, ofText_of_scan proper scanned, Environment.override,
      applyAll_of_unset unset, valid]
    rfl
  refine ⟨loaded, ?_⟩
  intro write layout
  have again := loaded _ (scan_written proper layout)
  refine ⟨again, ?_⟩
  rw [again]
  rfl

/-- No variable is set. -/
def noEnvironment : Environment := fun _ => none

/-- The greatest count, a path with characters that are escaped, and levels for two parts
of the program. -/
def unusual : Settings where
  connection := { baseUrl := "wss://a/\"é\"", reconnectDelay := greatestCount }
  session := { storagePath := some "C:\\x\n\x01" }
  log := { level := "", json := true, modules := [("a", "debug"), ("a.b", "")] }

theorem load_written_unusual :
    unusual.Proper ∧ unusual.validate = .ok () ∧
      (load (.file (.text unusual.declared.text)) noEnvironment).settings = .ok unusual ∧
      (load (.file (.text unusual.declared.linedText)) noEnvironment).settings = .ok unusual ∧
      unusual.declared.text ≠ unusual.declared.linedText := by
  have proper : unusual.Proper := by constructor <;> decide
  have valid : unusual.validate = .ok () := rfl
  have unset : ∀ entry ∈ Override.all, noEnvironment entry.1 = none := fun _ _ => rfl
  have loaded := (load_written proper valid unset).2
  exact ⟨proper, valid, congrArg Loaded.settings (loaded _ (by simp)).1,
    congrArg Loaded.settings (loaded _ (by simp)).1, by decide +kernel⟩

end Settings

end PageSession
