import Mathlib.Data.List.Find
import Mathlib.Data.List.Nodup
import PageSession.Proofs.Json.Decoding
import PageSession.Proofs.Json.Lines
import PageSession.Proofs.Session.Timestamp
import PageSession.Session.Storage

/-!
# The text of a storage file says what is stored

Entries that are written are read back with their keys and values in their places,
whatever characters are in them.  Entries that are read have every key once, and
times that can be read again.
-/

namespace PageSession.StoredEntries

open Json Json.Decode

variable {entries done : StoredEntries} {key other : String} {entry : StoredEntry}

/-! ## Keys -/

/-- Every key stands once. -/
def Distinct (entries : StoredEntries) : Prop :=
  (entries.map Prod.fst).Nodup

theorem get?_set_self (entries : StoredEntries) (key : String) (entry : StoredEntry) :
    (entries.set key entry).get? key = some entry := by
  have gone : (entries.filter (·.1 != key)).find? (·.1 == key) = none := by
    simp [List.find?_eq_none]
  simp [set, get?, List.find?_append, gone]

/-- What stands under another key is found as well without the entries of a key. -/
theorem find?_filter_of_ne {α : Type} (different : other ≠ key) (members : List (String × α)) :
    (members.filter (·.1 != key)).find? (·.1 == other) = members.find? (·.1 == other) := by
  rw [List.find?_filter]
  congr 1
  funext member
  by_cases same : member.1 = other
  · simp [same, different]
  · simp [same]

theorem get?_set_of_ne (different : other ≠ key) (entries : StoredEntries)
    (entry : StoredEntry) : (entries.set key entry).get? other = entries.get? other := by
  simp [set, get?, List.find?_append, find?_filter_of_ne different, Ne.symm different]

theorem get?_of_perm {others : StoredEntries} (distinct : entries.Distinct)
    (order : entries.Perm others) (key : String) : others.get? key = entries.get? key := by
  unfold get?
  rw [List.find?_eq_find?_of_perm order]
  rintro first ⟨placed, named⟩ second ⟨alsoPlaced, alsoNamed⟩
  have same : first.1 = second.1 := by rw [beq_iff_eq.mp named, beq_iff_eq.mp alsoNamed]
  exact List.inj_on_of_nodup_map distinct placed alsoPlaced same

theorem distinct_set (distinct : entries.Distinct) (key : String) (entry : StoredEntry) :
    (entries.set key entry).Distinct := by
  rw [Distinct, set, List.map_append, List.map_cons, List.map_nil, List.nodup_append]
  refine ⟨?_, by simp, ?_⟩
  · exact List.Nodup.sublist (List.Sublist.map Prod.fst List.filter_sublist) distinct
  · intro name placed other last
    obtain ⟨member, inside, rfl⟩ := List.mem_map.mp placed
    obtain rfl := List.mem_singleton.mp last
    simpa using (List.mem_filter.mp inside).2

theorem set_of_notMem (absent : key ∉ entries.map Prod.fst) :
    entries.set key entry = entries ++ [(key, entry)] := by
  have kept : entries.filter (·.1 != key) = entries := by
    apply List.filter_eq_self.mpr
    intro member placed
    have different : member.1 ≠ key := by
      rintro rfl
      exact absent (List.mem_map.mpr ⟨member, placed, rfl⟩)
    simpa using different
  rw [set, kept]

/-! ## From the text to tokens -/

section Tokens

/-- The tokens of an entry. -/
def entryTokens (entry : StoredEntry) : List Token :=
  [.openObject, .quoted (.ok "value") (.ok ()), .colon, .quoted (.ok entry.value) (.ok ()),
    .comma, .quoted (.ok "stored_at") (.ok ()), .colon, .quoted (.ok entry.storedAt) (.ok ()),
    .closeObject]

/-- The tokens of entries, between the marks of the object. -/
def tokens : StoredEntries → List Token
  | [] => []
  | (key, entry) :: rest =>
      .quoted (.ok key) (.ok ()) :: .colon :: entryTokens entry
        ++ (if rest.isEmpty then [] else [.comma]) ++ tokens rest

/-- An entry as it is written. -/
def entryJson (entry : StoredEntry) : Value :=
  .object [("value", .string entry.value), ("stored_at", .string entry.storedAt)]

theorem membersTokens_entries (entries : StoredEntries) :
    membersTokens (entries.map fun member => (member.1, entryJson member.2)) =
      entries.tokens := by
  induction entries with
  | nil => rfl
  | cons member entries ih =>
      obtain ⟨key, entry⟩ := member
      have same : (entryJson entry).tokens = entryTokens entry := rfl
      cases entries with
      | nil => simp [membersTokens, tokens, same]
      | cons next others =>
          rw [List.map_cons, membersTokens_cons _ _ (by simp), ih, same]
          simp [tokens]

theorem narrow_toJson (entries : StoredEntries) : entries.toJson.Narrow := by
  apply narrow_object.mpr
  intro member placed
  obtain ⟨entry, -, rfl⟩ := List.mem_map.mp placed
  simp [Value.Narrow, Value.parts, membersParts, Value.Bounded]

theorem exact_toJson (entries : StoredEntries) : entries.toJson.Exact := by
  apply exact_object.mpr
  intro member placed
  obtain ⟨entry, -, rfl⟩ := List.mem_map.mp placed
  simp [Value.Exact, Value.parts, membersParts, Value.isFloat]

theorem scan_text (entries : StoredEntries) :
    Token.scan entries.text = .openObject :: entries.tokens ++ [.closeObject] := by
  rw [← membersTokens_entries]
  exact scan_linedText (narrow_toJson entries) (exact_toJson entries)

end Tokens

/-! ## From tokens to entries -/

section Reading

/-- A time that can be read, told by universal time. -/
def retold (time : String) : String :=
  ((Timestamp.moment? time).map Timestamp.Moment.text).getD time

/-- The entries with their times told by universal time. -/
def retell (entries : StoredEntries) : StoredEntries :=
  entries.map fun (key, entry) => (key, { entry with storedAt := retold entry.storedAt })

/-- Every time can be read. -/
def Valid (entries : StoredEntries) : Prop :=
  ∀ member ∈ entries, Timestamp.valid member.2.storedAt

theorem timeToken_quoted {time : String} (valid : Timestamp.valid time)
    (skipped : Except Defect Unit) :
    timeToken (.quoted (.ok time) skipped) = .ok (retold time) := by
  obtain ⟨moment, told⟩ := Option.isSome_iff_exists.mp valid
  simp [timeToken, textToken, formed, Except.mapError, bind, Except.bind, told, retold]

/-- The tokens of an entry are read as an entry. -/
theorem foldlM_entryTokens (valid : Timestamp.valid entry.storedAt) (more : List Token) :
    (entryTokens entry ++ more).foldlM Reading.step (.entry done key) =
      more.foldlM Reading.step
        (.afterEntry (done.set key { entry with storedAt := retold entry.storedAt })) := by
  simp [entryTokens, Reading.step, Reading.takeField, Reading.takeValue, Reading.closeEntry,
    keyToken, textToken, formed, Except.mapError, bind, Except.bind, FieldName.of,
    Fields.checkNew, Fields.entry, timeToken_quoted valid]

/-- The tokens of further entries are read as these entries. -/
theorem foldlM_tokens (present : entries ≠ []) (distinct : Distinct (done ++ entries))
    (valid : entries.Valid) (more : List Token) :
    (entries.tokens ++ more).foldlM Reading.step (.nextKey done) =
      more.foldlM Reading.step (.afterEntry (done ++ entries.retell)) := by
  induction entries generalizing done with
  | nil => exact absurd rfl present
  | cons member entries ih =>
      obtain ⟨key, entry⟩ := member
      obtain ⟨first, rest⟩ := List.forall_mem_cons.mp valid
      let told : StoredEntry := { entry with storedAt := retold entry.storedAt }
      -- The key is new, so the entry is put behind all that are done.
      have fresh : key ∉ done.map Prod.fst := by
        intro old
        rw [Distinct, List.map_append, List.nodup_append] at distinct
        exact distinct.2.2 key old key (by simp) rfl
      have read : ∀ tokens : List Token,
          (Token.quoted (.ok key) (.ok ()) :: .colon :: (entryTokens entry ++ tokens)).foldlM
            Reading.step (.nextKey done) =
          tokens.foldlM Reading.step (.afterEntry (done ++ [(key, told)])) := by
        intro tokens
        rw [← set_of_notMem fresh, ← foldlM_entryTokens first]
        rfl
      cases entries with
      | nil =>
          simpa [tokens, retell] using read more
      | cons next others =>
          have later : Distinct (done ++ [(key, told)] ++ next :: others) := by
            simpa [Distinct] using distinct
          have rest := ih (by simp) later rest
          have chained : (tokens ((key, entry) :: next :: others) ++ more) =
              .quoted (.ok key) (.ok ()) :: .colon ::
                (entryTokens entry ++ .comma :: (tokens (next :: others) ++ more)) := by
            simp [tokens]
          rw [chained, read]
          change (tokens (next :: others) ++ more).foldlM Reading.step
            (.nextKey (done ++ [(key, told)])) = _
          rw [rest]
          simp [retell, told]

/-- Entries that are written are read back. -/
theorem read_text (distinct : entries.Distinct) (valid : entries.Valid) :
    read entries.text = .ok entries.retell := by
  rw [read, scan_text]
  cases entries with
  | nil => rfl
  | cons member entries =>
      have first : (Token.openObject :: tokens (member :: entries) ++ [Token.closeObject]).foldlM
          Reading.step .start =
          (tokens (member :: entries) ++ [Token.closeObject]).foldlM Reading.step
            (.nextKey []) := rfl
      rw [first, foldlM_tokens (by simp) distinct valid]
      rfl

theorem value_retell (entries : StoredEntries) (key : String) :
    (entries.retell.get? key).map (·.value) = (entries.get? key).map (·.value) := by
  induction entries with
  | nil => rfl
  | cons member entries ih =>
      obtain ⟨name, entry⟩ := member
      by_cases same : name = key
      · simp [retell, get?, same]
      · simpa [retell, get?, same] using ih

/-- The order of the entries in a file does not matter: what is read has the same values. -/
theorem exists_read_text_of_perm {written : StoredEntries} (distinct : entries.Distinct)
    (valid : entries.Valid) (order : written.Perm entries) :
    ∃ kept, read written.text = .ok kept ∧
      ∀ key, (kept.get? key).map (·.value) = (entries.get? key).map (·.value) := by
  have apart : written.Distinct := (order.map Prod.fst).nodup_iff.mpr distinct
  have readable : written.Valid := fun member placed => valid member (order.mem_iff.mp placed)
  refine ⟨written.retell, read_text apart readable, fun key => ?_⟩
  rw [value_retell, get?_of_perm apart order]

end Reading

/-! ## What is read -/

section Sound

/-- A time as it is told after reading. -/
def Told (time : String) : Prop :=
  ∃ moment : Timestamp.Moment, moment.Lawful ∧ time = moment.text

/-- Every key stands once, and every time is told by universal time. -/
structure Sound (entries : StoredEntries) : Prop where
  distinct : entries.Distinct
  told : ∀ member ∈ entries, Told member.2.storedAt

theorem sound_nil : Sound [] :=
  ⟨List.nodup_nil, nofun⟩

theorem Sound.valid (sound : entries.Sound) : entries.Valid := by
  intro member placed
  obtain ⟨moment, lawful, told⟩ := sound.told member placed
  rw [told]
  exact Timestamp.valid_text lawful

theorem Sound.set (sound : entries.Sound) (told : Told entry.storedAt) (key : String) :
    (entries.set key entry).Sound := by
  constructor
  · exact distinct_set sound.distinct key entry
  · intro member placed
    rcases List.mem_append.mp placed with old | new
    · exact sound.told member (List.mem_of_mem_filter old)
    · obtain rfl := List.mem_singleton.mp new
      exact told

/-- The time among the fields read so far is told by universal time. -/
def Fields.Sound (fields : Fields) : Prop :=
  ∀ time ∈ fields.storedAt, Told time

/-- What is read so far is sound. -/
def Reading.Sound : Reading → Prop
  | .start | .firstKey => True
  | .nextKey done | .keyColon done _ | .entry done _ | .firstItem done _
  | .afterFirstItem done _ _ | .secondItem done _ _ | .afterEntry done | .complete done =>
      done.Sound
  | .fieldKey done _ fields _ | .fieldColon done _ fields _ | .fieldValue done _ fields _
  | .skipping done _ fields _ | .afterField done _ fields => done.Sound ∧ fields.Sound
  | .afterItems done _ entry => done.Sound ∧ Told entry.storedAt

variable {reading next : Reading} {token : Token} {fields : Fields}

theorem told_of_timeToken {time : String} (taken : timeToken token = .ok time) : Told time := by
  obtain ⟨text, _, told⟩ := exists_of_bind_eq_ok taken
  cases moment : Timestamp.moment? text with
  | none => simp [moment] at told
  | some found =>
      simp only [moment, Except.ok.injEq] at told
      exact ⟨found, Timestamp.lawful_of_moment? moment, told.symm⟩

theorem wrongType_ne_ok {α : Type} (token : Token) (result : α) :
    (wrongType token : Checked α) ≠ .ok result := by
  intro wrong
  cases token with
  | word taken | number taken _ | quoted taken _ =>
      obtain ⟨_, _, failed⟩ := exists_of_bind_eq_ok wrong
      cases failed
  | _ => cases wrong

theorem sound_skip {assembly : Assembly} (sound : done.Sound) (fine : fields.Sound)
    (skipped : Reading.skip done key fields assembly token = .ok next) : next.Sound := by
  obtain ⟨after, _, kept⟩ := exists_of_bind_eq_ok skipped
  cases after <;> cases kept <;> exact ⟨sound, fine⟩

theorem sound_takeField (sound : done.Sound) (fine : fields.Sound)
    (taken : Reading.takeField done key fields token = .ok next) : next.Sound := by
  obtain ⟨_, _, checked⟩ := exists_of_bind_eq_ok taken
  obtain ⟨_, _, kept⟩ := exists_of_bind_eq_ok checked
  cases kept
  exact ⟨sound, fine⟩

theorem sound_takeValue {name : FieldName} (sound : done.Sound) (fine : fields.Sound)
    (taken : Reading.takeValue done key fields name token = .ok next) : next.Sound := by
  cases name with
  | value =>
      obtain ⟨_, _, kept⟩ := exists_of_bind_eq_ok taken
      cases kept
      exact ⟨sound, fine⟩
  | storedAt =>
      obtain ⟨time, told, kept⟩ := exists_of_bind_eq_ok taken
      cases kept
      refine ⟨sound, ?_⟩
      rintro _ ⟨⟩
      exact told_of_timeToken told
  | unknown => exact sound_skip sound fine taken

theorem sound_closeEntry (sound : done.Sound) (fine : fields.Sound)
    (closed : Reading.closeEntry done key fields = .ok next) : next.Sound := by
  obtain ⟨entry, complete, kept⟩ := exists_of_bind_eq_ok closed
  cases kept
  obtain ⟨value, storedAt⟩ := fields
  cases value with
  | none => cases complete
  | some value =>
      cases storedAt with
      | none => cases complete
      | some time =>
          cases complete
          exact sound.set (fine time rfl) key

theorem sound_step (sound : reading.Sound) (stepped : reading.step token = .ok next) :
    next.Sound := by
  cases reading with
  | start =>
      cases token with
      | openObject =>
          cases stepped
          trivial
      | _ =>
          simp only [Reading.step] at stepped
          exact absurd stepped (wrongType_ne_ok _ next)
  | firstKey =>
      cases token with
      | closeObject =>
          cases stepped
          exact sound_nil
      | _ =>
          obtain ⟨_, _, kept⟩ := exists_of_bind_eq_ok stepped
          cases kept
          exact sound_nil
  | nextKey done =>
      obtain ⟨_, _, kept⟩ := exists_of_bind_eq_ok stepped
      cases kept
      exact sound
  | keyColon done key =>
      cases token <;> cases stepped
      exact sound
  | entry done key =>
      cases token with
      | openObject =>
          cases stepped
          exact ⟨sound, nofun⟩
      | openArray =>
          cases stepped
          exact sound
      | _ =>
          simp only [Reading.step] at stepped
          exact absurd stepped (wrongType_ne_ok _ next)
  | fieldKey done key fields first =>
      cases first with
      | false => exact sound_takeField sound.1 sound.2 stepped
      | true =>
          cases token with
          | closeObject => exact sound_closeEntry sound.1 sound.2 stepped
          | _ => exact sound_takeField sound.1 sound.2 stepped
  | fieldColon done key fields name =>
      cases token <;> cases stepped
      exact sound
  | fieldValue done key fields name => exact sound_takeValue sound.1 sound.2 stepped
  | skipping done key fields assembly => exact sound_skip sound.1 sound.2 stepped
  | afterField done key fields =>
      cases token with
      | comma =>
          cases stepped
          exact sound
      | closeObject => exact sound_closeEntry sound.1 sound.2 stepped
      | _ => cases stepped
  | firstItem done key =>
      cases token with
      | closeArray => cases stepped
      | _ =>
          obtain ⟨_, _, kept⟩ := exists_of_bind_eq_ok stepped
          cases kept
          exact sound
  | afterFirstItem done key value =>
      cases token <;> cases stepped
      exact sound
  | secondItem done key value =>
      obtain ⟨time, told, kept⟩ := exists_of_bind_eq_ok stepped
      cases kept
      exact ⟨sound, told_of_timeToken told⟩
  | afterItems done key entry =>
      cases token <;> cases stepped
      exact sound.1.set sound.2 key
  | afterEntry done =>
      cases token <;> cases stepped
      · exact sound
      · exact sound
  | complete done => cases stepped

theorem sound_foldlM {tokens : List Token} (sound : reading.Sound)
    (run : tokens.foldlM Reading.step reading = .ok next) : next.Sound := by
  induction tokens generalizing reading with
  | nil =>
      cases run
      exact sound
  | cons token tokens ih =>
      rw [List.foldlM_cons] at run
      obtain ⟨middle, stepped, rest⟩ := exists_of_bind_eq_ok run
      exact ih (sound_step sound stepped) rest

/-- Whatever text entries are read from, every key stands once, and every time is told
by universal time. -/
theorem sound_read {text : String} (understood : read text = .ok entries) : entries.Sound := by
  obtain ⟨last, run, finished⟩ := exists_of_bind_eq_ok understood
  have sound := sound_foldlM (show Reading.start.Sound from trivial) run
  cases last with
  | complete done =>
      cases finished
      exact sound
  | _ => cases finished

end Sound

end PageSession.StoredEntries
