import PageSession.Proofs.Session.Entries
import PageSession.Session.Identity

/-!
# One name for all starts

A program that asks for the name of its session again and again, each time through
the same file, gets one name: the one that is stored, or the first one that it made.
The file is written once at most, and then every other entry keeps its value.  A file
that cannot be understood is left as it is, and every start has a name of its own.
-/

namespace PageSession

/-- A start of the program: the time, and the name that is made if none is stored. -/
structure Visit where
  time : String
  fresh : String

/-- Ask for the name of the session at every start, each finding the storage as the
one before has left it. -/
def SessionId.obtainEach (storage : Storage) : List Visit → List SessionId.Obtained
  | [] => []
  | visit :: visits =>
      let obtained := SessionId.obtain storage visit.time visit.fresh
      obtained :: obtainEach obtained.storage visits

namespace StoredEntries

def value? (entries : StoredEntries) (key : String) : Option String :=
  (entries.get? key).map (·.value)

/-- The name that is stored; an empty one counts as none. -/
def session? (entries : StoredEntries) : Option String :=
  (entries.value? SessionId.storageKey).filter (· ≠ "")

end StoredEntries

/-- A file that can be written: it is there, or nothing is. -/
def FileNode.Writable (node : FileNode) : Prop :=
  node = .absent ∨ ∃ content, node = .file content

namespace FileNode

variable {node : FileNode} {entries : StoredEntries}

theorem sound_entries (understood : node.entries = .ok entries) : entries.Sound := by
  unfold FileNode.entries at understood
  split at understood
  · cases understood
  · cases understood
    exact StoredEntries.sound_nil
  · next text _ =>
      cases read : StoredEntries.read text with
      | error corruption => simp [read, Except.mapError] at understood
      | ok found =>
          simp only [read, Except.mapError, Except.ok.injEq] at understood
          exact understood ▸ StoredEntries.sound_read read

theorem getStored_eq (understood : node.entries = .ok entries) (key : String) :
    node.getStored key = .ok (entries.value? key) := by
  rw [getStored, understood]
  rfl

theorem write_of_writable (writable : node.Writable) (text : String) :
    node.write text = .ok (.file (.text text)) := by
  rcases writable with rfl | ⟨content, rfl⟩ <;> rfl

/-- Entries that are written can be read, with the same values, in whatever order they
are written. -/
theorem entries_text (sound : entries.Sound) {time : String} (valid : Timestamp.valid time)
    (key value : String) {written : StoredEntries}
    (order : written.Perm (entries.set key ⟨value, time⟩)) :
    ∃ kept, (FileNode.file (.text written.text)).entries = .ok kept ∧
      kept.value? key = some value ∧
      ∀ other, other ≠ key → kept.value? other = entries.value? other := by
  have readable : (entries.set key ⟨value, time⟩).Valid := by
    intro member placed
    rcases List.mem_append.mp placed with old | new
    · exact sound.valid member (List.mem_of_mem_filter old)
    · obtain rfl := List.mem_singleton.mp new
      exact valid
  obtain ⟨kept, read, values⟩ := StoredEntries.exists_read_text_of_perm
    (StoredEntries.distinct_set sound.distinct key ⟨value, time⟩) readable order
  refine ⟨kept, ?_, ?_, ?_⟩
  · simp [FileNode.entries, FileNode.read, read, Except.mapError]
  · rw [StoredEntries.value?, values, StoredEntries.get?_set_self]
    rfl
  · intro other different
    rw [StoredEntries.value?, values, StoredEntries.get?_set_of_ne different]
    rfl

end FileNode

namespace SessionId

variable {node : FileNode} {entries : StoredEntries} {stored time fresh : String}

/-! ## One start -/

theorem obtain_of_stored (understood : node.entries = .ok entries)
    (kept : entries.session? = some stored) (time fresh : String) :
    obtain (.file node) time fresh =
      { session := ⟨stored⟩, storage := .file node, generated := false,
        incidents := [.reusing stored] } := by
  obtain ⟨found, filled⟩ := Option.filter_eq_some_iff.mp kept
  have filled : stored ≠ "" := by simpa using filled
  have got : Storage.get (.file node) storageKey = .ok (some stored) := by
    rw [Storage.get, FileNode.getStored_eq understood, found]
  rw [obtain, got]
  simp [filled]

theorem obtain_of_error {error : StorageError} (failed : node.entries = .error error)
    (time fresh : String) :
    obtain (.file node) time fresh =
      { session := ⟨fresh⟩, storage := .file node, generated := true,
        incidents := [.ephemeral error] } := by
  have got : Storage.get (.file node) storageKey = .error error := by
    rw [Storage.get, FileNode.getStored, failed]
    rfl
  rw [obtain, got]

theorem obtain_of_unstored (writable : node.Writable) (understood : node.entries = .ok entries)
    (missing : entries.session? = none) (time fresh : String) :
    obtain (.file node) time fresh =
      { session := ⟨fresh⟩,
        storage := .file (.file (.text (entries.set storageKey ⟨fresh, time⟩).text)),
        generated := true, incidents := [] } := by
  have created : create (.file node) time fresh =
      { session := ⟨fresh⟩,
        storage := .file (.file (.text (entries.set storageKey ⟨fresh, time⟩).text)),
        generated := true, incidents := [] } := by
    simp [create, Storage.set, FileNode.setStored, FileNode.entriesToExtend, understood,
      FileNode.write_of_writable writable, bind, Except.bind]
  have got : Storage.get (.file node) storageKey = .ok (entries.value? storageKey) := by
    rw [Storage.get, FileNode.getStored_eq understood]
  rw [obtain, got]
  cases found : entries.value? storageKey with
  | none => exact created
  | some stored =>
      have empty : stored = "" := by
        simpa [StoredEntries.session?, found, Option.filter] using missing
      simpa [empty] using created

/-! ## Many starts -/

/-- Starts that leave the storage as it is do not depend on each other. -/
theorem obtainEach_eq_map {storage : Storage} {obtained : Visit → Obtained}
    (stays : ∀ visit, (obtained visit).storage = storage)
    (each : ∀ visit, obtain storage visit.time visit.fresh = obtained visit)
    (visits : List Visit) : obtainEach storage visits = visits.map obtained := by
  induction visits with
  | nil => rfl
  | cons visit visits ih =>
      rw [obtainEach, each, stays, ih, List.map_cons]

theorem obtainEach_of_stored (understood : node.entries = .ok entries)
    (kept : entries.session? = some stored) (visits : List Visit) :
    obtainEach (.file node) visits = visits.map fun _ =>
      { session := ⟨stored⟩, storage := .file node, generated := false,
        incidents := [.reusing stored] } := by
  apply obtainEach_eq_map
  · exact fun _ => rfl
  · exact fun visit => obtain_of_stored understood kept visit.time visit.fresh

theorem obtainEach_of_error {error : StorageError} (failed : node.entries = .error error)
    (visits : List Visit) :
    obtainEach (.file node) visits = visits.map fun visit =>
      { session := ⟨visit.fresh⟩, storage := .file node, generated := true,
        incidents := [.ephemeral error] } := by
  apply obtainEach_eq_map
  · exact fun _ => rfl
  · exact fun visit => obtain_of_error failed visit.time visit.fresh

/-- If the file is absent or can be understood, all starts get one name, the stored one
or else the first that is made; the file then holds this name, it is as it was if it held
a name before, and no other entry changes its value.  If the file cannot be understood,
every start gets the name that it makes, and the file stays as it is. -/
theorem obtainEach_stable (node : FileNode) (writable : node.Writable) (visits : List Visit)
    (valid : ∀ visit ∈ visits, Timestamp.valid visit.time)
    (named : ∀ visit ∈ visits, visit.fresh ≠ "") :
    (∀ entries, node.entries = .ok entries →
      ∃ after kept, after.entries = .ok kept ∧
        (∀ obtained ∈ obtainEach (.file node) visits,
          obtained.storage = .file after ∧
          entries.session?.or (visits.head?.map (·.fresh)) = some obtained.session.text ∧
          kept.session? = some obtained.session.text) ∧
        (entries.session?.isSome → after = node) ∧
        ∀ key, key ≠ storageKey → kept.value? key = entries.value? key) ∧
    (∀ error, node.entries = .error error →
      obtainEach (.file node) visits = visits.map fun visit =>
        { session := ⟨visit.fresh⟩, storage := .file node, generated := true,
          incidents := [.ephemeral error] }) := by
  constructor
  · intro entries understood
    cases found : entries.session? with
    | some stored =>
        refine ⟨node, entries, understood, ?_, fun _ => rfl, fun _ _ => rfl⟩
        rw [obtainEach_of_stored understood found]
        intro obtained placed
        obtain ⟨_, _, rfl⟩ := List.mem_map.mp placed
        exact ⟨rfl, rfl, found⟩
    | none =>
        cases visits with
        | nil => exact ⟨node, entries, understood, nofun, nofun, fun _ _ => rfl⟩
        | cons visit visits =>
            obtain ⟨now, later⟩ := List.forall_mem_cons.mp valid
            obtain ⟨filled, _⟩ := List.forall_mem_cons.mp named
            -- What the first start writes is what every later one finds.
            obtain ⟨kept, read, session, others⟩ := FileNode.entries_text
              (FileNode.sound_entries understood) now storageKey visit.fresh (.refl _)
            have keeps : kept.session? = some visit.fresh := by
              simp [StoredEntries.session?, session, Option.filter, filled]
            refine ⟨_, kept, read, ?_, nofun, others⟩
            rw [obtainEach, obtain_of_unstored writable understood found,
              obtainEach_of_stored read keeps]
            intro obtained placed
            rcases List.mem_cons.mp placed with rfl | behind
            · exact ⟨rfl, rfl, keeps⟩
            · obtain ⟨_, _, rfl⟩ := List.mem_map.mp behind
              exact ⟨rfl, rfl, keeps⟩
  · intro error failed
    exact obtainEach_of_error failed visits

/-- A file with an entry of another kind, told by the clocks of an offset. -/
def otherEntry : FileNode :=
  .file (.text
    "\x7b\"theme\":\x7b\"value\":\"dark\",\"stored_at\":\"2024-01-01T00:30:00+01:00\"\x7d\x7d")

def twoVisits : List Visit :=
  [⟨"2024-05-01T08:00:00Z", "first"⟩, ⟨"2024-05-02T08:00:00Z", "second"⟩]

/-- Both starts get the name that the first one makes, and the other entry stays; bytes
that are no text are left alone. -/
theorem obtainEach_stable_otherEntry :
    (∃ after kept, after.entries = .ok kept ∧ kept.value? "theme" = some "dark" ∧
      ∀ obtained ∈ obtainEach (.file otherEntry) twoVisits,
        obtained.storage = .file after ∧ obtained.session.text = "first") ∧
      ∀ obtained ∈ obtainEach (.file (.file (.binary [0xff]))) twoVisits,
        obtained.storage = .file (.file (.binary [0xff])) := by
  have valid : ∀ visit ∈ twoVisits, Timestamp.valid visit.time := by decide +kernel
  have named : ∀ visit ∈ twoVisits, visit.fresh ≠ "" := by decide
  have understood : otherEntry.entries.toOption =
      some [("theme", ⟨"dark", "2023-12-31T23:30:00Z"⟩)] := by decide +kernel
  constructor
  · cases read : otherEntry.entries with
    | error error => simp [read, Except.toOption] at understood
    | ok entries =>
        obtain rfl : entries = _ := by simpa [read, Except.toOption] using understood
        obtain ⟨after, kept, readAgain, names, _, others⟩ :=
          (obtainEach_stable otherEntry (.inr ⟨_, rfl⟩) twoVisits valid named).1 _ read
        refine ⟨after, kept, readAgain, others "theme" (by decide), ?_⟩
        intro obtained placed
        obtain ⟨stands, name, _⟩ := names obtained placed
        exact ⟨stands, (Option.some.inj name).symm⟩
  · rw [(obtainEach_stable (.file (.binary [0xff])) (.inr ⟨_, rfl⟩) twoVisits valid named).2
      _ rfl]
    intro obtained placed
    obtain ⟨_, _, rfl⟩ := List.mem_map.mp placed
    rfl

end SessionId

end PageSession
