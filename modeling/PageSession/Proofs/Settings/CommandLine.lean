import PageSession.CommandLine.Run
import PageSession.Proofs.Settings.Layers

/-!
# What the arguments override, and what they cannot mend

The arguments stand over the environment and the file, setting by setting.  The
settings below them are checked by themselves first: an address that cannot be used
ends the program although the arguments give another one.
-/

namespace PageSession

/-- What the arguments give for a setting. -/
def Setting.commanded? (arguments : Arguments) : (setting : Setting) → Option setting.Content
  | .baseUrl => arguments.url
  | .storagePath => arguments.sessionPath.map some
  | .logJson => if arguments.jsonLogs then some true else none
  | .reconnectDelay | .keepAliveInterval | .maxInactivity | .loadTimeout | .logLevel
  | .logModules => none

namespace Settings

/-- Every setting is what the arguments give, else it comes from the layers below. -/
def Commanded (arguments : Arguments) (file : FileNode) (environment : Environment)
    (settings : Settings) : Prop :=
  ∀ setting : Setting,
    match setting.commanded? arguments with
    | some content => setting.get settings = content
    | none => setting.Layered file environment (setting.get settings)

/-- An address that a connection can be made to. -/
def Usable (address : String) : Prop :=
  startsWith "ws://" address ∨ startsWith "wss://" address

variable {arguments : Arguments} {file : FileNode} {environment : Environment}

theorem Commanded.unique {first second : Settings}
    (one : first.Commanded arguments file environment)
    (other : second.Commanded arguments file environment) : first = second := by
  apply Setting.eq_of_get_eq
  intro setting
  have this := one setting
  have that := other setting
  cases commanded : setting.commanded? arguments with
  | some content =>
      simp only [commanded] at this that
      exact this.trans that.symm
  | none =>
      simp only [commanded] at this that
      exact this.unique that

/-- Settings can be used if their address can, and if the keep-alive interval is not
zero. -/
theorem validate_eq_ok_iff {settings : Settings} :
    settings.validate = .ok () ↔
      Usable settings.connection.baseUrl ∧ settings.connection.keepAliveInterval ≠ 0 := by
  have empty : ¬ Usable "" := by
    rintro (plain | secure)
    · exact absurd plain (by decide)
    · exact absurd secure (by decide)
  by_cases missing : settings.connection.baseUrl = ""
  · simp [validate, missing, empty]
  · by_cases usable : Usable settings.connection.baseUrl
    · have schemed : (!startsWith "ws://" settings.connection.baseUrl &&
          !startsWith "wss://" settings.connection.baseUrl) = false := by
        rcases usable with plain | secure
        · simp [plain]
        · simp [secure]
      by_cases idle : settings.connection.keepAliveInterval = 0
      · simp [validate, missing, schemed, idle]
      · simp [validate, missing, schemed, usable, idle]
    · obtain ⟨plain, secure⟩ := not_or.mp usable
      simp [validate, missing, plain, secure, usable]

end Settings

namespace Run

open Settings

theorem override_eq_foldl (arguments : Arguments) (settings : Settings) :
    override arguments settings =
      [Setting.baseUrl, .storagePath, .logJson].foldl
        (Setting.lay (·.commanded? arguments)) settings := by
  obtain ⟨url, _, path, json⟩ := arguments
  cases url <;> cases path <;> cases json <;> rfl

/-- What the arguments give stands over what was there. -/
theorem get_override (arguments : Arguments) (setting : Setting) (settings : Settings) :
    setting.get (override arguments settings) =
      (setting.commanded? arguments).getD (setting.get settings) := by
  rw [override_eq_foldl]
  apply Setting.get_foldl (by decide)
  intro outside
  cases setting <;> first | rfl | exact absurd (by decide) outside

theorem commanded_override (arguments : Arguments) {file : FileNode}
    {environment : Environment} {lower : Settings} (layered : lower.Layered file environment) :
    (override arguments lower).Commanded arguments file environment := by
  intro setting
  have got := get_override arguments setting lower
  cases commanded : setting.commanded? arguments with
  | some content =>
      rw [commanded] at got
      exact got
  | none =>
      rw [commanded, Option.getD_none] at got
      rw [got]
      exact layered setting

theorem loadSettings_eq_ok_iff [Json.Complaints] (arguments : Arguments) (surroundings : Surroundings)
    {base lower result : Settings}
    (understood : ofFile (surroundings.files
      (settingsPath arguments surroundings.environment)) = .ok base)
    (below : (surroundings.environment.override base).1 = lower) :
    loadSettings arguments surroundings = .ok result ↔
      lower.validate = .ok () ∧ (override arguments lower).validate = .ok () ∧
        result = override arguments lower := by
  rw [loadSettings, load, understood]
  simp only [below]
  cases lower.validate with
  | error error => simp [Except.map, Except.mapError, bind, Except.bind]
  | ok _ =>
      cases checked : (override arguments lower).validate with
      | error error => simp [Except.map, Except.mapError, bind, Except.bind, checked]
      | ok _ => simp [Except.map, Except.mapError, bind, Except.bind, checked, eq_comm]

/-- With a file that can be understood there is one way to take each setting from the
arguments, else from the layers below.  These settings are loaded if they can be used
and the address of the layers below can be used as well, be it overridden or not. -/
theorem loadSettings_commanded [Json.Complaints] (arguments : Arguments) (surroundings : Surroundings)
    (accepted : ∀ error, ¬ Refuses
      (surroundings.files (settingsPath arguments surroundings.environment)) error) :
    ∃ lower settings : Settings,
      (∀ other : Settings,
        other.Layered (surroundings.files (settingsPath arguments surroundings.environment))
          surroundings.environment ↔ other = lower) ∧
      (∀ other : Settings,
        other.Commanded arguments
          (surroundings.files (settingsPath arguments surroundings.environment))
          surroundings.environment ↔ other = settings) ∧
      ∀ result, loadSettings arguments surroundings = .ok result ↔
        result = settings ∧ settings.validate = .ok () ∧ Usable lower.connection.baseUrl := by
  cases read : ofFile (surroundings.files
      (settingsPath arguments surroundings.environment)) with
  | error error => exact absurd (ofFile_eq_error_iff.mp read) (accepted error)
  | ok base =>
      let lower := (surroundings.environment.override base).1
      have layered : lower.Layered _ surroundings.environment := layered_override _ read
      have commanded := commanded_override arguments layered
      refine ⟨lower, override arguments lower, fun other => ⟨fun that => that.unique layered, ?_⟩,
        fun other => ⟨fun that => that.unique commanded, ?_⟩, ?_⟩
      · rintro rfl
        exact layered
      · rintro rfl
        exact commanded
      · intro result
        -- No argument gives an interval, so only the address is checked twice.
        have interval : (override arguments lower).connection.keepAliveInterval =
            lower.connection.keepAliveInterval := get_override arguments .keepAliveInterval lower
        rw [loadSettings_eq_ok_iff _ _ read rfl, validate_eq_ok_iff, validate_eq_ok_iff, interval]
        constructor
        · rintro ⟨⟨usable, _⟩, valid, same⟩
          exact ⟨same, valid, usable⟩
        · rintro ⟨same, valid, usable⟩
          exact ⟨⟨usable, valid.2⟩, valid, same⟩

/-- Surroundings with one file and no variables. -/
def plainSurroundings (file : FileNode) : Surroundings :=
  { environment := fun _ => none, files := fun _ => file, time := "", fresh := "" }

/-- An address and a kind of log are asked for. -/
def overriding : Arguments :=
  { url := some "wss://h/", jsonLogs := true }

/-- Without a file the arguments stand over the defaults. -/
theorem loadSettings_commanded_absent :
    loadSettings overriding (plainSurroundings .absent) =
      .ok { connection := { baseUrl := "wss://h/" }, log := { json := true } } := by
  obtain ⟨lower, settings, below, above, loaded⟩ :=
    loadSettings_commanded overriding (plainSurroundings .absent) (fun _ => id)
  have layered : ({} : Settings).Layered .absent fun _ => none := layered_override _ rfl
  obtain rfl := (below _).mp layered
  obtain rfl := (above _).mp (commanded_override overriding layered)
  have valid : (override overriding {}).validate = .ok () :=
    validate_eq_ok_iff.mpr ⟨.inr (by decide +kernel), by decide +kernel⟩
  exact (loaded _).mpr ⟨rfl, valid, .inl (by decide +kernel)⟩

/-- A file with an address that cannot be used. -/
def unusableFile : FileNode :=
  .file (.text "\x7b\"transport\":\x7b\"baseUrl\":\"http://f\"\x7d\x7d")

/-- The settings that the arguments make of the file can be used, and are not loaded. -/
theorem loadSettings_commanded_unusable :
    ∃ settings : Settings, settings.Commanded overriding unusableFile (fun _ => none) ∧
      settings.validate = .ok () ∧
      ∀ result, loadSettings overriding (plainSurroundings unusableFile) ≠ .ok result := by
  have given : (ofFile unusableFile).toOption =
      some { connection := { baseUrl := "http://f" } } := by decide +kernel
  cases read : ofFile unusableFile with
  | error error => simp [read, Except.toOption] at given
  | ok base =>
      obtain rfl : base = _ := by simpa [read, Except.toOption] using given
      have layered : Settings.Layered unusableFile (fun _ => none) _ := layered_override _ read
      refine ⟨_, commanded_override overriding layered,
        validate_eq_ok_iff.mpr ⟨.inr (by decide +kernel), by decide +kernel⟩, ?_⟩
      intro result loaded
      obtain ⟨valid, -⟩ := (loadSettings_eq_ok_iff overriding (plainSurroundings unusableFile)
        read rfl).mp loaded
      rcases (validate_eq_ok_iff.mp valid).1 with plain | secure
      · exact absurd plain (by decide +kernel)
      · exact absurd secure (by decide +kernel)

end Run

end PageSession
