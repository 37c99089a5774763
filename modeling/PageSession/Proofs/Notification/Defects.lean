import PageSession.Notification.Basic
import PageSession.Proofs.Json.Decoding
import PageSession.Proofs.Json.Spelling

/-!
# The first defect of a frame

A frame can have several defects at once: a version that is not known, no method, and
parameters that are no array.  The one that comes first in a fixed order is reported, and
a frame without any holds a notification.  Nothing but the values of three keys counts.
-/

namespace PageSession

/-- The place of an error in the order in which defects are looked for. -/
def WireError.rank : WireError → Nat
  | .malformed _ => 0
  | .notAnObject => 1
  | .unsupportedVersion _ => 2
  | .missingMethod => 3
  | .paramsNotArray _ => 4
  | .invalidParams _ _ => 5

namespace Notification

open Json

/-! ## What the values of an object's keys mean -/

/-- The values are those of a notification. -/
structure Describes (given : String → Option Value) (notification : Notification) : Prop where
  version : given "jsonrpc" = none ∨ given "jsonrpc" = some (.string "2.0")
  method : given "method" = some (.string notification.method)
  params :
    match notification.params with
    | some items => given "params" = some (.array items)
    | none => given "params" = none ∨ given "params" = some .null

/-- The values have a defect, whatever other defects they have. -/
def Flawed (given : String → Option Value) : WireError → Prop
  | .unsupportedVersion shown =>
      ∃ version, given "jsonrpc" = some version ∧ version ≠ .string "2.0" ∧ shown = version.text
  | .missingMethod => ∀ method, given "method" ≠ some (.string method)
  | .paramsNotArray method =>
      given "method" = some (.string method) ∧
        ∃ params, given "params" = some params ∧ params ≠ .null ∧ ∀ items, params ≠ .array items
  | .malformed _ | .notAnObject | .invalidParams _ _ => False

variable {members : Members} {method : String} {params : Option (List Value)}
  {error : WireError}

theorem Flawed.rank {given : String → Option Value} (flawed : Flawed given error) :
    2 ≤ error.rank ∧ error.rank ≤ 4 := by
  cases error <;> first | exact flawed.elim | simp [WireError.rank]

/-! ## One check after the other -/

theorem checkVersion_eq_ok_iff :
    checkVersion members = .ok () ↔
      Members.get? "jsonrpc" members = none ∨
        Members.get? "jsonrpc" members = some (.string "2.0") := by
  unfold checkVersion
  split
  · simp [*]
  · split <;> simp_all [version]
  · simp_all

theorem checkVersion_eq_error_iff :
    checkVersion members = .error error ↔
      error.rank = 2 ∧ Flawed (Members.get? · members) error := by
  have shown : checkVersion members = .error error ↔
      ∃ version, Members.get? "jsonrpc" members = some version ∧ version ≠ .string "2.0" ∧
        error = .unsupportedVersion version.text := by
    unfold checkVersion
    split <;> rename_i held
    · simp [held]
    · split <;> simp_all [version, @eq_comm _ error]
    · simp_all [@eq_comm _ error]
  rw [shown]
  cases error <;> simp [Flawed, WireError.rank]

theorem takeMethod_eq_ok_iff :
    takeMethod members = .ok method ↔ Members.get? "method" members = some (.string method) := by
  unfold takeMethod
  split <;> simp_all

theorem takeMethod_eq_error_iff :
    takeMethod members = .error error ↔
      error.rank = 3 ∧ Flawed (Members.get? · members) error := by
  have missing : takeMethod members = .error error ↔
      (∀ method, Members.get? "method" members ≠ some (.string method)) ∧
        error = .missingMethod := by
    unfold takeMethod
    split <;> simp_all [@eq_comm _ error]
  rw [missing]
  cases error <;> simp [Flawed, WireError.rank]

theorem takeParams_eq_ok_iff :
    takeParams method members = .ok params ↔
      match params with
      | some items => Members.get? "params" members = some (.array items)
      | none =>
          Members.get? "params" members = none ∨ Members.get? "params" members = some .null := by
  unfold takeParams
  split <;> cases params <;> simp_all

theorem takeParams_eq_error_iff
    (named : Members.get? "method" members = some (.string method)) :
    takeParams method members = .error error ↔
      error.rank = 4 ∧ Flawed (Members.get? · members) error := by
  have wrong : takeParams method members = .error error ↔
      (∃ params, Members.get? "params" members = some params ∧ params ≠ .null ∧
          ∀ items, params ≠ .array items) ∧
        error = .paramsNotArray method := by
    unfold takeParams
    split <;> simp_all [@eq_comm _ error]
  rw [wrong]
  cases error <;> simp [Flawed, WireError.rank, named, eq_comm, and_comm]

/-! ## All checks -/

theorem ofMembers_eq_ok_iff {notification : Notification} :
    ofMembers members = .ok notification ↔
      Describes (Members.get? · members) notification := by
  constructor
  · intro read
    obtain ⟨_, versioned, read⟩ := Decode.exists_of_bind_eq_ok read
    obtain ⟨method, named, read⟩ := Decode.exists_of_bind_eq_ok read
    obtain ⟨params, taken, read⟩ := Decode.exists_of_bind_eq_ok read
    cases read
    exact ⟨checkVersion_eq_ok_iff.mp versioned, takeMethod_eq_ok_iff.mp named,
      takeParams_eq_ok_iff.mp taken⟩
  · rintro ⟨versioned, named, taken⟩
    rw [ofMembers, checkVersion_eq_ok_iff.mpr versioned, takeMethod_eq_ok_iff.mpr named]
    change takeParams _ _ >>= _ = _
    rw [takeParams_eq_ok_iff.mpr taken]
    rfl

section Checks

variable {α : Type} {check : Except WireError α} {rank : Nat} {flaw : WireError → Prop}

/-- A check that looks for the defects of a rank finds the first one, if there is none of
a smaller rank. -/
theorem eq_iff_first (finds : ∀ error, check = .error error ↔ error.rank = rank ∧ flaw error)
    (least : ∀ error, flaw error → rank ≤ error.rank) {first : WireError}
    (found : check = .error first) :
    first = error ↔ flaw error ∧ ∀ earlier, earlier.rank < error.rank → ¬ flaw earlier := by
  obtain ⟨ranked, flawed⟩ := (finds first).mp found
  constructor
  · rintro rfl
    refine ⟨flawed, ?_⟩
    intro earlier less flawed
    have bound := least earlier flawed
    omega
  · rintro ⟨flawed, minimal⟩
    have bound := least error flawed
    have notLess : ¬ first.rank < error.rank := fun less => minimal first less ‹_›
    have again : check = .error error := (finds error).mpr ⟨by omega, flawed⟩
    exact Except.error.inj (found.symm.trans again)

theorem rank_ne_of_passed
    (finds : ∀ error, check = .error error ↔ error.rank = rank ∧ flaw error) {content : α}
    (passed : check = .ok content) (flawed : flaw error) : error.rank ≠ rank := by
  intro ranked
  have failed := (finds error).mpr ⟨ranked, flawed⟩
  rw [passed] at failed
  cases failed

end Checks

/-- The first defect of an object is reported. -/
theorem ofMembers_eq_error_iff :
    ofMembers members = .error error ↔
      Flawed (Members.get? · members) error ∧
        ∀ earlier, earlier.rank < error.rank → ¬ Flawed (Members.get? · members) earlier := by
  -- Every check that passes raises the least rank that a defect can still have.
  cases versioned : checkVersion members with
  | error first =>
      have failed : ofMembers members = .error first := by rw [ofMembers, versioned]; rfl
      rw [failed, Except.error.injEq]
      exact eq_iff_first (fun _ => checkVersion_eq_error_iff) (fun _ flawed => flawed.rank.1)
        versioned
  | ok _ =>
      have known : ∀ error, Flawed (Members.get? · members) error → 3 ≤ error.rank := by
        intro error flawed
        have bound := flawed.rank.1
        have passed := rank_ne_of_passed (fun _ => checkVersion_eq_error_iff) versioned flawed
        omega
      cases named : takeMethod members with
      | error first =>
          have failed : ofMembers members = .error first := by
            rw [ofMembers, versioned, named]
            rfl
          rw [failed, Except.error.injEq]
          exact eq_iff_first (fun _ => takeMethod_eq_error_iff) known named
      | ok method =>
          have decides : ∀ error, takeParams method members = .error error ↔
              error.rank = 4 ∧ Flawed (Members.get? · members) error :=
            fun _ => takeParams_eq_error_iff (takeMethod_eq_ok_iff.mp named)
          have least : ∀ error, Flawed (Members.get? · members) error → 4 ≤ error.rank := by
            intro error flawed
            have bound := known error flawed
            have passed := rank_ne_of_passed (fun _ => takeMethod_eq_error_iff) named flawed
            omega
          have rest : ofMembers members =
              takeParams method members >>= fun params => .ok { method, params } := by
            rw [ofMembers, versioned, named]
            rfl
          cases taken : takeParams method members with
          | error first =>
              rw [rest, taken]
              exact (Except.error.injEq _ _).to_iff.trans (eq_iff_first decides least taken)
          | ok params =>
              have flawless : ¬ Flawed (Members.get? · members) error := by
                intro flawed
                have bounds := flawed.rank.2
                have passed := rank_ne_of_passed decides taken flawed
                have bound := least error flawed
                omega
              rw [rest, taken]
              constructor
              · rintro ⟨⟩
              · rintro ⟨flawed, -⟩
                exact absurd flawed flawless

/-! ## Frames -/

/-- A frame has a defect, whatever other defects it has. -/
def Applies (frame : String) : WireError → Prop
  | .malformed defect => (∀ value, ¬ Spells frame value) ∧ Value.read frame = .error defect
  | .notAnObject => ∃ value, Spells frame value ∧ ∀ members, value ≠ .object members
  | error => ∃ members, Spells frame (.object members) ∧ Flawed (Members.last? · members) error

variable {frame : String} {value : Value}

theorem applies_of_read_error {defect : Defect} (read : Value.read frame = .error defect) :
    Applies frame error ↔ error = .malformed defect := by
  have unspelled : ∀ value, ¬ Spells frame value := by
    intro value spells
    have known := read_eq_ok_iff.mpr ⟨value, spells, rfl⟩
    rw [read] at known
    cases known
  cases error <;> simp [Applies, unspelled, read, @eq_comm _ defect]

theorem applies_of_read_plain (read : Value.read frame = .ok value)
    (plain : ∀ members, value ≠ .object members) : Applies frame error ↔ error = .notAnObject := by
  obtain ⟨spelled, spells, rfl⟩ := read_eq_ok_iff.mp read
  have spelledPlain : ∀ members, spelled ≠ .object members := by
    rintro members rfl
    exact plain _ rfl
  have notObject : ∀ members, ¬ Spells frame (.object members) := by
    intro members other
    have known := read_eq_object_iff.mpr ⟨members, other, rfl⟩
    rw [read] at known
    exact plain _ (Except.ok.inj known)
  cases error with
  | malformed defect => simpa [Applies] using fun unspelled => absurd spells (unspelled spelled)
  | notAnObject => simpa [Applies] using ⟨spelled, spells, spelledPlain⟩
  | _ => simp [Applies, notObject]

/-- Whatever members a frame spells, they give each key the value that is read. -/
theorem last?_of_read (read : Value.read frame = .ok (.object members)) {spelled : Members}
    (spells : Spells frame (.object spelled)) :
    (Members.last? · spelled) = (Members.get? · members) := by
  have known := read_eq_object_iff.mpr ⟨spelled, spells, rfl⟩
  rw [read] at known
  cases known
  exact funext fun key => (get?_sorted key spelled).symm

theorem applies_of_read_object (read : Value.read frame = .ok (.object members)) :
    Applies frame error ↔ Flawed (Members.get? · members) error := by
  obtain ⟨spelled, spells, -⟩ := read_eq_object_iff.mp read
  have flawed : (∃ members, Spells frame (.object members) ∧
      Flawed (Members.last? · members) error) ↔ Flawed (Members.get? · members) error := by
    constructor
    · rintro ⟨other, spells, flawed⟩
      exact last?_of_read read spells ▸ flawed
    · intro flawed
      exact ⟨spelled, spells, last?_of_read read spells ▸ flawed⟩
  cases error with
  | malformed defect => simpa [Applies, Flawed] using fun unspelled => absurd spells (unspelled _)
  | notAnObject =>
      simp only [Applies, Flawed, iff_false, not_exists, not_and, not_forall, not_not]
      intro value other
      have known := read_eq_ok_iff.mpr ⟨value, other, rfl⟩
      rw [read] at known
      cases value with
      | object members => exact ⟨members, rfl⟩
      | _ => cases known
  | _ => exact flawed

theorem ofFrame_of_spells (spells : Spells frame (.object members)) :
    ofFrame frame = ofMembers (Members.ofList (membersSorted members)) := by
  rw [ofFrame, read_eq_object_iff.mpr ⟨members, spells, rfl⟩]

/-- Nothing but the values of three keys counts. -/
theorem ofMembers_congr {others : Members}
    (agree : ∀ key ∈ ["jsonrpc", "method", "params"],
      Members.get? key members = Members.get? key others) :
    ofMembers members = ofMembers others := by
  simp only [List.forall_mem_cons] at agree
  obtain ⟨version, method, params, -⟩ := agree
  simp only [ofMembers, checkVersion, takeMethod, takeParams, version, method, params]

theorem ofFrame_eq_ok_iff {notification : Notification} :
    ofFrame frame = .ok notification ↔
      ∃ members, Spells frame (.object members) ∧
        Describes (Members.last? · members) notification := by
  constructor
  · intro taken
    unfold ofFrame at taken
    split at taken
    · cases taken
    · next members read =>
        obtain ⟨spelled, spells, -⟩ := read_eq_object_iff.mp read
        exact ⟨spelled, spells, last?_of_read read spells ▸ ofMembers_eq_ok_iff.mp taken⟩
    · cases taken
  · rintro ⟨members, spells, describes⟩
    rw [ofFrame_of_spells spells, ofMembers_eq_ok_iff]
    simpa only [get?_sorted] using describes

/-- What has only one defect has no earlier one. -/
theorem eq_iff_only {only : WireError} :
    only = error ↔ error = only ∧ ∀ earlier, earlier.rank < error.rank → earlier ≠ only := by
  constructor
  · rintro rfl
    refine ⟨rfl, ?_⟩
    rintro earlier less rfl
    exact Nat.lt_irrefl _ less
  · rintro ⟨rfl, -⟩
    rfl

theorem ofFrame_eq_error_iff :
    ofFrame frame = .error error ↔
      Applies frame error ∧ ∀ earlier, earlier.rank < error.rank → ¬ Applies frame earlier := by
  unfold ofFrame
  split
  · next defect read =>
      simp only [applies_of_read_error read]
      exact (Except.error.injEq _ _).to_iff.trans eq_iff_only
  · next members read =>
      simp only [applies_of_read_object read]
      exact ofMembers_eq_error_iff
  · next value plain read =>
      simp only [applies_of_read_plain read plain]
      exact (Except.error.injEq _ _).to_iff.trans eq_iff_only

/-- A frame holds a notification just if it spells an object whose values describe it.
Otherwise the first of its defects is reported, and frames that agree on the values of
three keys are not told apart. -/
theorem ofFrame_first_defect (frame : String) :
    (∀ notification, ofFrame frame = .ok notification ↔
      ∃ members, Spells frame (.object members) ∧
        Describes (Members.last? · members) notification) ∧
    (∀ error, ofFrame frame = .error error ↔
      Applies frame error ∧ ∀ earlier, earlier.rank < error.rank → ¬ Applies frame earlier) ∧
    ∀ members other others, Spells frame (.object members) → Spells other (.object others) →
      (∀ key ∈ ["jsonrpc", "method", "params"],
        Members.last? key members = Members.last? key others) →
      ofFrame frame = ofFrame other := by
  refine ⟨fun _ => ofFrame_eq_ok_iff, fun _ => ofFrame_eq_error_iff, ?_⟩
  intro members other others first second agree
  rw [ofFrame_of_spells first, ofFrame_of_spells second]
  apply ofMembers_congr
  simpa only [get?_sorted] using agree

/-- A frame with a member that has no meaning, and with its parameters given twice. -/
def repeatedFrame : String :=
  "\x7b\"id\":7,\"params\":1,\"method\":\"x\", \"params\":[\x7b\"b\":1,\"a\":null\x7d]\x7d"

/-- The members of this frame as they come. -/
def repeatedMembers : Members :=
  [("id", .nat 7), ("params", .nat 1), ("method", .string "x"),
    ("params", .array [.object [("b", .nat 1), ("a", .null)]])]

/-- A frame of the same notification. -/
def plainFrame : String :=
  "\x7b\"params\":[\x7b\"a\":null,\"b\":1\x7d],\"method\":\"x\"\x7d"

/-- The members of this frame. -/
def plainMembers : Members :=
  [("params", .array [.object [("a", .null), ("b", .nat 1)]]), ("method", .string "x")]

/-- A frame with a wrong version, no method and parameters that are no array. -/
def defectiveFrame : String :=
  "\x7b\"params\":\x7b\x7d,\"jsonrpc\":[1]\x7d"

set_option maxRecDepth 1024 in
theorem ofFrame_first_defect_repeated :
    ofFrame repeatedFrame = .ok (carrying "x" [.object [("a", .null), ("b", .nat 1)]]) ∧
      ofFrame repeatedFrame = ofFrame plainFrame ∧
      ofFrame defectiveFrame = .error (.unsupportedVersion "[1]") := by
  have repeated : Spells repeatedFrame (.object repeatedMembers) := ⟨rfl, by decide⟩
  have single : Spells plainFrame (.object plainMembers) := ⟨rfl, by decide⟩
  have defective : Spells defectiveFrame
      (.object [("params", .object []), ("jsonrpc", .array [.nat 1])]) := ⟨rfl, by decide⟩
  refine ⟨?_, ?_, ?_⟩
  · apply ((ofFrame_first_defect repeatedFrame).1 _).mpr
    exact ⟨repeatedMembers, repeated, .inl rfl, rfl, rfl⟩
  · apply (ofFrame_first_defect repeatedFrame).2.2 _ _ _ repeated single
    simp only [List.forall_mem_cons]
    exact ⟨rfl, rfl, rfl, nofun⟩
  · apply ((ofFrame_first_defect defectiveFrame).2.1 _).mpr
    refine ⟨⟨_, defective, .array [.nat 1], rfl, nofun, rfl⟩, ?_⟩
    have read : Value.read defectiveFrame = _ := read_of_scan defective.scanned defective.shallow
    intro earlier less applies
    have bound := ((applies_of_read_object read).mp applies).rank.1
    exact Nat.not_lt.mpr bound less

end Notification

end PageSession
