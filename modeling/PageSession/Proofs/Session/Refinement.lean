import PageSession.Proofs.Session.Stability

/-!
# A storage file answers as a storage in memory would

Whatever is asked of a storage file, through one handle after the other, the answers
are those of a storage in memory that begins with the values in the file.  A file
that is text but cannot be understood answers no question until something is stored:
that is then its only entry.  Bytes that are no text stay as they are.
-/

namespace PageSession

namespace Storage

/-- What is asked of a storage. -/
inductive Request where
  | get (key : String)
  | set (time key value : String)
deriving DecidableEq, Repr

/-- The time at which something is stored, if anything is, can be read. -/
def Request.Timely : Request → Prop
  | .get _ => True
  | .set time _ _ => Timestamp.valid time

/-- The outcome of a request. -/
inductive Answer where
  | found (outcome : Except StorageError (Option String))
  | stored (outcome : Except StorageError Unit)
deriving DecidableEq, Repr

/-- The answer of a storage that fails. -/
def Request.refused (error : StorageError) : Request → Answer
  | .get _ => .found (.error error)
  | .set .. => .stored (.error error)

/-- Answer a request.  Only one to store something can change the storage, and it
does not if it fails. -/
def serve (storage : Storage) : Request → Answer × Storage
  | .get key => (.found (storage.get key), storage)
  | .set time key value =>
      match storage.set time key value with
      | .ok (next, _) => (.stored (.ok ()), next)
      | .error error => (.stored (.error error), storage)

/-- Answer requests, one after the other. -/
def serveAll (storage : Storage) : List Request → List Answer × Storage
  | [] => ([], storage)
  | request :: requests =>
      let served := storage.serve request
      let rest := served.2.serveAll requests
      (served.1 :: rest.1, rest.2)

/-- Answer the requests made through one handle after the other.  A handle holds
nothing, so that each finds the storage as the one before has left it. -/
def serveEach (storage : Storage) : List (List Request) → List Answer × Storage
  | [] => ([], storage)
  | requests :: handles =>
      let served := storage.serveAll requests
      let rest := served.2.serveEach handles
      (served.1 ++ rest.1, rest.2)

theorem serveAll_append (storage : Storage) (before after : List Request) :
    storage.serveAll (before ++ after) =
      ((storage.serveAll before).1 ++ ((storage.serveAll before).2.serveAll after).1,
        ((storage.serveAll before).2.serveAll after).2) := by
  induction before generalizing storage with
  | nil => rfl
  | cons request before induction => simp [serveAll, induction]

/-- It does not matter through which handles the requests are made. -/
theorem serveEach_eq (storage : Storage) (handles : List (List Request)) :
    storage.serveEach handles = storage.serveAll handles.flatten := by
  induction handles generalizing storage with
  | nil => rfl
  | cons requests handles induction =>
      rw [serveEach, induction, List.flatten_cons, serveAll_append]

end Storage

namespace FileNode

variable {node : FileNode} {entries : StoredEntries}

/-- Storing in a file that is understood stores one value and leaves the others. -/
theorem exists_set_of_entries (writable : node.Writable) (understood : node.entries = .ok entries)
    {time : String} (valid : Timestamp.valid time) (key value : String) :
    ∃ next stored, Storage.set (.file node) time key value = .ok (.file next, []) ∧
      next.Writable ∧ next.entries = .ok stored ∧ stored.value? key = some value ∧
      ∀ other, other ≠ key → stored.value? other = entries.value? other := by
  obtain ⟨stored, read, new, old⟩ :=
    entries_text (sound_entries understood) valid key value (.refl _)
  refine ⟨_, stored, ?_, .inr ⟨_, rfl⟩, read, new, old⟩
  simp [Storage.set, setStored, entriesToExtend, understood, write_of_writable writable, bind,
    Except.bind]

end FileNode

/-- A storage in memory with the values of some entries. -/
def MemoryStorage.preloaded (entries : StoredEntries) : MemoryStorage where
  entries := entries.map fun (key, entry) => (key, entry.value)

namespace Storage

variable {node : FileNode} {memory : MemoryStorage} {entries : StoredEntries}

/-- A file that can be written and a storage in memory without faults have the same
values. -/
structure Mirrors (node : FileNode) (memory : MemoryStorage) : Prop where
  writable : node.Writable
  readable : memory.readFault = none
  settable : memory.writeFault = none
  values : ∃ entries, node.entries = .ok entries ∧
    ∀ key, entries.value? key = (memory.entries.find? (·.1 == key)).map (·.2)

theorem mirrors_preloaded (writable : node.Writable) (understood : node.entries = .ok entries) :
    Mirrors node (.preloaded entries) := by
  refine ⟨writable, rfl, rfl, entries, understood, fun key => ?_⟩
  simp [MemoryStorage.preloaded, StoredEntries.value?, StoredEntries.get?, List.find?_map,
    Function.comp_def]

namespace Mirrors

theorem get (mirrors : Mirrors node memory) (key : String) :
    Storage.get (.file node) key = Storage.get (.memory memory) key := by
  obtain ⟨entries, understood, same⟩ := mirrors.values
  have fromMemory : memory.get key = .ok ((memory.entries.find? (·.1 == key)).map (·.2)) := by
    rw [MemoryStorage.get, mirrors.readable]
  calc
    node.getStored key = .ok (entries.value? key) := FileNode.getStored_eq understood key
    _ = memory.get key := by rw [same, fromMemory]

/-- Storing in both succeeds and leaves the same values in both. -/
theorem set (mirrors : Mirrors node memory) {time : String} (valid : Timestamp.valid time)
    (key value : String) :
    ∃ next held, Storage.set (.file node) time key value = .ok (.file next, []) ∧
      Storage.set (.memory memory) time key value = .ok (.memory held, []) ∧
      Mirrors next held := by
  obtain ⟨entries, understood, same⟩ := mirrors.values
  obtain ⟨next, stored, written, writable, read, new, old⟩ :=
    FileNode.exists_set_of_entries mirrors.writable understood valid key value
  let held : MemoryStorage :=
    { memory with entries := (key, value) :: memory.entries.filter (·.1 != key) }
  have kept : Storage.set (.memory memory) time key value = .ok (.memory held, []) := by
    simp [Storage.set, MemoryStorage.set, mirrors.settable, bind, Except.bind, held]
  refine ⟨next, held, written, kept, writable, mirrors.readable, mirrors.settable, stored, read, ?_⟩
  intro other
  by_cases different : other = key
  · rw [different, new]
    simp [held]
  · rw [old other different, same]
    simp [held, Ne.symm different, StoredEntries.find?_filter_of_ne different]

theorem serve (mirrors : Mirrors node memory) {request : Request} (timely : request.Timely) :
    ∃ next held answer, Storage.serve (.file node) request = (answer, .file next) ∧
      Storage.serve (.memory memory) request = (answer, .memory held) ∧
      Mirrors next held := by
  cases request with
  | get key =>
      refine ⟨node, memory, _, rfl, ?_, mirrors⟩
      rw [Storage.serve, mirrors.get]
  | set time key value =>
      obtain ⟨next, held, written, kept, still⟩ := mirrors.set timely key value
      exact ⟨next, held, .stored (.ok ()), by rw [Storage.serve, written],
        by rw [Storage.serve, kept], still⟩

theorem serveAll (mirrors : Mirrors node memory) {requests : List Request}
    (timely : ∀ request ∈ requests, request.Timely) :
    ∃ next held answers, Storage.serveAll (.file node) requests = (answers, .file next) ∧
      Storage.serveAll (.memory memory) requests = (answers, .memory held) ∧
      Mirrors next held := by
  induction requests generalizing node memory with
  | nil => exact ⟨node, memory, [], rfl, rfl, mirrors⟩
  | cons request requests induction =>
      obtain ⟨now, later⟩ := List.forall_mem_cons.mp timely
      obtain ⟨next, held, answer, fromFile, fromMemory, between⟩ := mirrors.serve now
      obtain ⟨last, final, answers, fileRest, memoryRest, still⟩ := induction between later
      refine ⟨last, final, answer :: answers, ?_, ?_, still⟩
      · simp [Storage.serveAll, fromFile, fileRest]
      · simp [Storage.serveAll, fromMemory, memoryRest]

end Mirrors

/-! ## Files that cannot be understood -/

section Corrupt

variable {text : String} {corruption : Corruption}

theorem get_of_corrupt (corrupt : StoredEntries.read text = .error corruption) (key : String) :
    Storage.get (.file (.file (.text text))) key = .error (.corrupt corruption) := by
  simp [Storage.get, FileNode.getStored, FileNode.entries, FileNode.read, corrupt,
    Except.mapError, bind, Except.bind]

/-- What is stored in a file that cannot be understood is all that it has then. -/
theorem exists_set_of_corrupt (corrupt : StoredEntries.read text = .error corruption)
    {time : String} (valid : Timestamp.valid time) (key value : String) :
    ∃ after, Storage.set (.file (.file (.text text))) time key value =
        .ok (.file after, [.replacing corruption]) ∧
      after.entries = .ok [(key, ⟨value, StoredEntries.retold time⟩)] := by
  have read : StoredEntries.read (StoredEntries.text [(key, ⟨value, time⟩)]) =
      .ok [(key, ⟨value, StoredEntries.retold time⟩)] := by
    apply StoredEntries.read_text
    · simp [StoredEntries.Distinct]
    · simpa [StoredEntries.Valid] using valid
  refine ⟨.file (.text (StoredEntries.text [(key, ⟨value, time⟩)])), ?_, ?_⟩
  · simp [Storage.set, FileNode.setStored, FileNode.entriesToExtend, FileNode.entries,
      FileNode.read, FileNode.write, StoredEntries.set, corrupt, Except.mapError, bind,
      Except.bind]
  · simp [FileNode.entries, FileNode.read, read, Except.mapError]

end Corrupt

/-- A file that cannot be opened, or holds no text, lets every request fail and stays as
it is. -/
theorem serve_of_read_eq_error {error : FileError} (failed : node.read = .error error)
    (request : Request) :
    Storage.serve (.file node) request = (request.refused (.file error), .file node) := by
  have unknown : node.entries = .error (.file error) := by rw [FileNode.entries, failed]
  cases request with
  | get key =>
      simp [serve, Storage.get, FileNode.getStored, unknown, Request.refused, bind, Except.bind]
  | set time key value =>
      simp [serve, Storage.set, FileNode.setStored, FileNode.entriesToExtend, unknown,
        Request.refused, bind, Except.bind]

/-- If the file is absent or can be understood, the answers to all requests are those
of a storage in memory that begins with the same values, and in the end storing a
value leaves every other one as it is.  If the file is text that cannot be
understood, asking for a value fails and changes nothing, and what is stored is then
the only entry.  Bytes that are no text let every request fail and stay as they are. -/
theorem serveEach_eq_preloaded (node : FileNode) :
    (∀ entries, node.Writable → node.entries = .ok entries →
      ∀ handles : List (List Request),
        (∀ requests ∈ handles, ∀ request ∈ requests, request.Timely) →
        (Storage.serveEach (.file node) handles).1 =
          (Storage.serveAll (.memory (.preloaded entries)) handles.flatten).1 ∧
        ∃ last kept, (Storage.serveEach (.file node) handles).2 = .file last ∧
          last.entries = .ok kept ∧
          ∀ time key value, Timestamp.valid time →
            ∃ next stored, Storage.set (.file last) time key value = .ok (.file next, []) ∧
              next.entries = .ok stored ∧ stored.value? key = some value ∧
              ∀ other, other ≠ key → stored.value? other = kept.value? other) ∧
    (∀ text corruption, node = .file (.text text) →
      StoredEntries.read text = .error corruption →
      (∀ key, Storage.serve (.file node) (.get key) =
        (.found (.error (.corrupt corruption)), .file node)) ∧
      ∀ time key value, Timestamp.valid time →
        ∃ after, Storage.set (.file node) time key value =
            .ok (.file after, [.replacing corruption]) ∧
          after.entries = .ok [(key, ⟨value, StoredEntries.retold time⟩)]) ∧
    (∀ bytes, node = .file (.ofBytes bytes) → String.fromUTF8? ⟨bytes.toArray⟩ = none →
      (∀ key, Storage.serve (.file node) (.get key) =
        (.found (.error (.file .invalidText)), .file node)) ∧
      ∀ time key value, Storage.serve (.file node) (.set time key value) =
        (.stored (.error (.file .invalidText)), .file node)) := by
  refine ⟨?_, ?_, ?_⟩
  · intro entries writable understood handles timely
    have all : ∀ request ∈ handles.flatten, request.Timely := by
      intro request member
      obtain ⟨requests, used, made⟩ := List.mem_flatten.mp member
      exact timely requests used request made
    obtain ⟨last, held, answers, fromFile, fromMemory, still⟩ :=
      (mirrors_preloaded writable understood).serveAll all
    obtain ⟨kept, read, _⟩ := still.values
    rw [serveEach_eq, fromFile, fromMemory]
    refine ⟨rfl, last, kept, rfl, read, ?_⟩
    intro time key value valid
    obtain ⟨next, stored, written, _, readAgain, new, old⟩ :=
      FileNode.exists_set_of_entries still.writable read valid key value
    exact ⟨next, stored, written, readAgain, new, old⟩
  · rintro text corruption rfl corrupt
    refine ⟨fun key => ?_, fun time key value valid => ?_⟩
    · rw [serve, get_of_corrupt corrupt]
    · exact exists_set_of_corrupt corrupt valid key value
  · rintro bytes rfl foreign
    have content : FileContent.ofBytes bytes = .binary bytes := by
      rw [FileContent.ofBytes, foreign]
    have failed : (FileNode.file (.ofBytes bytes)).read = .error .invalidText := by
      rw [content]
      rfl
    exact ⟨fun _ => serve_of_read_eq_error failed _, fun _ _ _ => serve_of_read_eq_error failed _⟩

/-- Two handles on one file, a text that is no JSON, and a byte that is no text. -/
theorem serveEach_eq_preloaded_otherEntry :
    let handles : List (List Request) :=
      [[.get "theme", .set "2024-05-01T08:00:00Z" "\"\n" "a"],
        [.set "2024-05-02T08:00:00Z" "theme" "light", .get "\"\n", .get "theme", .get "none"]]
    (Storage.serveEach (.file SessionId.otherEntry) handles).1 =
        [.found (.ok (some "dark")), .stored (.ok ()), .stored (.ok ()), .found (.ok (some "a")),
          .found (.ok (some "light")), .found (.ok none)] ∧
      (∃ corruption after,
        Storage.serve (.file (.file (.text "\x7bnot json"))) (.get "key") =
          (.found (.error (.corrupt corruption)), .file (.file (.text "\x7bnot json"))) ∧
        Storage.set (.file (.file (.text "\x7bnot json"))) "2024-05-01T08:00:00Z" "key" "S1" =
          .ok (.file after, [.replacing corruption]) ∧
        after.entries = .ok [("key", ⟨"S1", StoredEntries.retold "2024-05-01T08:00:00Z"⟩)]) ∧
      ∀ time key value,
        Storage.serve (.file (.file (.ofBytes [0xff]))) (.set time key value) =
          (.stored (.error (.file .invalidText)), .file (.file (.ofBytes [0xff]))) := by
  intro handles
  refine ⟨?_, ?_, ?_⟩
  · have timely : ∀ requests ∈ handles, ∀ request ∈ requests, request.Timely := by
      simp only [handles, List.forall_mem_cons, List.not_mem_nil, Request.Timely]
      refine ⟨⟨trivial, ?_, by simp⟩, ⟨?_, trivial, trivial, trivial, by simp⟩, by simp⟩
      · decide +kernel
      · decide +kernel
    have understood : SessionId.otherEntry.entries.toOption =
        some [("theme", ⟨"dark", "2023-12-31T23:30:00Z"⟩)] := by decide +kernel
    cases read : SessionId.otherEntry.entries with
    | error error => simp [read, Except.toOption] at understood
    | ok entries =>
        obtain rfl : entries = _ := by simpa [read, Except.toOption] using understood
        rw [((serveEach_eq_preloaded SessionId.otherEntry).1 _ (.inr ⟨_, rfl⟩) read
          handles timely).1]
        decide +kernel
  · cases read : StoredEntries.read "\x7bnot json" with
    | ok entries =>
        have failed : (StoredEntries.read "\x7bnot json").toOption = none := by decide +kernel
        simp [read, Except.toOption] at failed
    | error corruption =>
        obtain ⟨asked, stored⟩ := (serveEach_eq_preloaded (.file (.text "\x7bnot json"))).2.1
          _ corruption rfl read
        obtain ⟨after, written, only⟩ :=
          stored "2024-05-01T08:00:00Z" "key" "S1" (by decide +kernel)
        exact ⟨corruption, after, asked "key", written, only⟩
  · exact ((serveEach_eq_preloaded (.file (.ofBytes [0xff]))).2.2 [0xff] rfl
      (by decide +kernel)).2

end Storage

end PageSession
