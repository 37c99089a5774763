import Mathlib.Data.List.Induction
import PageSession.Proofs.Json.Overlay

/-!
# Which texts spell a value

A text spells a value if its tokens are the tokens of the value: blanks between them,
the digits of a number and the escapes of a text do not matter.  A spelled object lists
its members as they come, a key as often as it occurs.  A text is read as a value if and
only if it spells one, and what is read is the spelled value with its members sorted.
-/

namespace PageSession.Json

/-- A text has the tokens of a value that nests no deeper than a reader allows. -/
structure Spells (text : String) (value : Value) : Prop where
  scanned : Token.scan text = value.tokens
  shallow : value.depth ≤ Assembly.depthLimit

variable {stack : List Frame} {token : Token} {tokens : List Token} {next : Assembly}
  {whole : Value}

/-! ## Steps taken back -/

/-- A key is followed by a colon and a value. -/
theorem awaitKey_feed_eq_ok {done : Members} (lawful : ∀ token ∈ tokens, token.Lawful)
    (fed : (Assembly.awaitKey stack done).feed tokens = .ok (.complete whole)) :
    ∃ key rest, tokens = .quoted (.ok key) (.ok ()) :: .colon :: rest ∧
      (Assembly.awaitValue (.members done key :: stack)).feed rest = .ok (.complete whole) := by
  match tokens with
  | [] => cases fed
  | [token] =>
      obtain ⟨next, stepped, fed⟩ := feed_cons_eq_ok fed
      cases fed
      match token with
      | .quoted (.ok key) _ => cases stepped
  | first :: second :: rest =>
      obtain ⟨next, stepped, fed⟩ := feed_cons_eq_ok fed
      match first with
      | .quoted (.ok key) skipped =>
          obtain rfl : skipped = .ok () := lawful _ List.mem_cons_self
          cases stepped
          cases second with
          | colon => exact ⟨key, rest, rfl, fed⟩
          | _ => cases fed

/-- An item is followed by a comma or the end of the array. -/
theorem afterItem_feed_eq_ok {reversed : List Value}
    (fed : (Assembly.afterItem stack reversed).feed tokens = .ok (.complete whole)) :
    ∃ rest, (tokens = .comma :: rest ∧
        (Assembly.awaitValue (.items reversed :: stack)).feed rest = .ok (.complete whole)) ∨
      tokens = .closeArray :: rest ∧
        (Assembly.deliver (.array reversed.reverse) stack).feed rest = .ok (.complete whole) := by
  cases tokens with
  | nil => cases fed
  | cons token tokens =>
      cases token with
      | comma => exact ⟨tokens, .inl ⟨rfl, fed⟩⟩
      | closeArray => exact ⟨tokens, .inr ⟨rfl, fed⟩⟩
      | _ => cases fed

/-- A member is followed by a comma or the end of the object. -/
theorem afterMember_feed_eq_ok {done : Members}
    (fed : (Assembly.afterMember stack done).feed tokens = .ok (.complete whole)) :
    ∃ rest, (tokens = .comma :: rest ∧
        (Assembly.awaitKey stack done).feed rest = .ok (.complete whole)) ∨
      tokens = .closeObject :: rest ∧
        (Assembly.deliver (.object done) stack).feed rest = .ok (.complete whole) := by
  cases tokens with
  | nil => cases fed
  | cons token tokens =>
      cases token with
      | comma => exact ⟨tokens, .inl ⟨rfl, fed⟩⟩
      | closeObject => exact ⟨tokens, .inr ⟨rfl, fed⟩⟩
      | _ => cases fed

/-- An array ends at once, or its first item is read like the others. -/
theorem awaitFirstItem_feed_eq_ok
    (fed : (Assembly.awaitFirstItem stack).feed tokens = .ok (.complete whole)) :
    (∃ rest, tokens = .closeArray :: rest ∧
        (Assembly.deliver (.array []) stack).feed rest = .ok (.complete whole)) ∨
      (Assembly.awaitValue (.items [] :: stack)).feed tokens = .ok (.complete whole) := by
  cases tokens with
  | nil => cases fed
  | cons token tokens =>
      cases token with
      | closeArray => exact .inl ⟨tokens, rfl, fed⟩
      | _ => exact .inr fed

/-- An object ends at once, or its first key is read like the others. -/
theorem awaitFirstKey_feed_eq_ok
    (fed : (Assembly.awaitFirstKey stack).feed tokens = .ok (.complete whole)) :
    (∃ rest, tokens = .closeObject :: rest ∧
        (Assembly.deliver (.object []) stack).feed rest = .ok (.complete whole)) ∨
      (Assembly.awaitKey stack []).feed tokens = .ok (.complete whole) := by
  cases tokens with
  | nil => cases fed
  | cons token tokens =>
      cases token with
      | closeObject => exact .inl ⟨tokens, rfl, fed⟩
      | _ => exact .inr fed

/-! ## From the value to what it was spelled as -/

-- The induction is on the number of tokens that are left.  The items of an array begin with
-- a value on the same tokens, hence the second component of the measure.

mutual

/-- Where a value is awaited, the tokens of one stand. -/
theorem exists_value_of_feed (tokens : List Token) (stack : List Frame)
    (lawful : ∀ token ∈ tokens, token.Lawful) (room : stack.length ≤ Assembly.depthLimit)
    (fed : (Assembly.awaitValue stack).feed tokens = .ok (.complete whole)) :
    ∃ (value : Value) (rest : List Token), tokens = value.tokens ++ rest ∧
      stack.length + value.depth ≤ Assembly.depthLimit ∧
      (Assembly.deliver value.sorted stack).feed rest = .ok (.complete whole) := by
  match tokens with
  | [] => cases fed
  | token :: tokens =>
      obtain ⟨first, later⟩ := List.forall_mem_cons.mp lawful
      obtain ⟨next, stepped, fed⟩ := feed_cons_eq_ok fed
      rcases beginValue_eq_ok first stepped with
        ⟨value, single, canonical, flat, rfl⟩ | ⟨rfl, deeper, rfl⟩ | ⟨rfl, deeper, rfl⟩
      · rw [← sorted_of_canonical canonical] at fed
        exact ⟨value, tokens, by rw [single]; rfl, by omega, fed⟩
      · rcases awaitFirstItem_feed_eq_ok fed with ⟨rest, rfl, fed⟩ | fed
        · exact ⟨.array [], rest, rfl, deeper, fed⟩
        · obtain ⟨items, rest, -, rfl, deep, fed⟩ :=
            exists_items_of_feed tokens stack [] later deeper fed
          exact ⟨.array items, rest, by simp [Value.tokens], deep, fed⟩
      · rcases awaitFirstKey_feed_eq_ok fed with ⟨rest, rfl, fed⟩ | fed
        · exact ⟨.object [], rest, rfl, deeper, fed⟩
        · obtain ⟨members, rest, -, rfl, deep, fed⟩ :=
            exists_members_of_feed tokens stack [] later deeper fed
          exact ⟨.object members, rest, by simp [Value.tokens], deep, fed⟩
termination_by (tokens.length, 0)

/-- Where an item is awaited, the items that are left stand, and the end of the array. -/
theorem exists_items_of_feed (tokens : List Token) (stack : List Frame)
    (reversed : List Value) (lawful : ∀ token ∈ tokens, token.Lawful)
    (room : stack.length < Assembly.depthLimit)
    (fed : (Assembly.awaitValue (.items reversed :: stack)).feed tokens =
      .ok (.complete whole)) :
    ∃ (items : List Value) (rest : List Token), items ≠ [] ∧
      tokens = itemsTokens items ++ .closeArray :: rest ∧
      stack.length + (itemsDepth items + 1) ≤ Assembly.depthLimit ∧
      (Assembly.deliver (.array (reversed.reverse ++ itemsSorted items)) stack).feed rest =
        .ok (.complete whole) := by
  obtain ⟨item, others, rfl, deep, fed⟩ :=
    exists_value_of_feed tokens (.items reversed :: stack) lawful room fed
  rw [List.length_cons] at deep
  obtain ⟨rest, ⟨rfl, more⟩ | ⟨rfl, ended⟩⟩ := afterItem_feed_eq_ok fed
  · have later := (List.forall_mem_cons.mp (List.forall_mem_append.mp lawful).2).2
    obtain ⟨items, last, nonempty, rfl, deeper, fed⟩ :=
      exists_items_of_feed rest stack (item.sorted :: reversed) later room more
    refine ⟨item :: items, last, List.cons_ne_nil _ _, ?_, ?_, ?_⟩
    · rw [itemsTokens_cons item nonempty, List.append_assoc, List.cons_append]
    · rw [itemsDepth]
      omega
    · simpa [itemsSorted] using fed
  · refine ⟨[item], rest, List.cons_ne_nil _ _, rfl, ?_, ?_⟩
    · rw [itemsDepth, itemsDepth]
      omega
    · simpa [itemsSorted] using ended
termination_by (tokens.length, 1)

/-- Where a key is awaited, the members that are left stand, and the end of the object. -/
theorem exists_members_of_feed (tokens : List Token) (stack : List Frame)
    (done : Members) (lawful : ∀ token ∈ tokens, token.Lawful)
    (room : stack.length < Assembly.depthLimit)
    (fed : (Assembly.awaitKey stack done).feed tokens = .ok (.complete whole)) :
    ∃ (members : Members) (rest : List Token), members ≠ [] ∧
      tokens = membersTokens members ++ .closeObject :: rest ∧
      stack.length + (membersDepth members + 1) ≤ Assembly.depthLimit ∧
      (Assembly.deliver (.object (done.insertAll (membersSorted members))) stack).feed rest =
        .ok (.complete whole) := by
  obtain ⟨key, rest, rfl, fed⟩ := awaitKey_feed_eq_ok lawful fed
  replace lawful := (List.forall_mem_cons.mp (List.forall_mem_cons.mp lawful).2).2
  obtain ⟨value, others, rfl, deep, fed⟩ :=
    exists_value_of_feed rest (.members done key :: stack) lawful room fed
  rw [List.length_cons] at deep
  obtain ⟨rest, ⟨rfl, more⟩ | ⟨rfl, ended⟩⟩ := afterMember_feed_eq_ok fed
  · have later := (List.forall_mem_cons.mp (List.forall_mem_append.mp lawful).2).2
    obtain ⟨members, last, nonempty, rfl, deeper, fed⟩ :=
      exists_members_of_feed rest stack (Members.insert key value.sorted done) later room more
    refine ⟨(key, value) :: members, last, List.cons_ne_nil _ _, ?_, ?_, fed⟩
    · simp only [membersTokens_cons key value nonempty, List.append_assoc, List.cons_append]
    · rw [membersDepth]
      omega
  · refine ⟨[(key, value)], rest, List.cons_ne_nil _ _, rfl, ?_, ended⟩
    rw [membersDepth, membersDepth]
    omega
termination_by (tokens.length, 1)

end

/-! ## Reading -/

/-- A text is read as a value if and only if it spells a value that is this one once its
members are sorted. -/
theorem read_eq_ok_iff {text : String} {value : Value} :
    Value.read text = .ok value ↔ ∃ spelled, Spells text spelled ∧ spelled.sorted = value := by
  constructor
  · intro read
    have lawful := lawful_tokens (show Scan.between.Lawful from trivial) text.toList
    obtain ⟨spelled, rest, split, shallow, fed⟩ :=
      exists_value_of_feed (Token.scan text) [] lawful (Nat.zero_le _) (feed_of_read read)
    -- Nothing may stand behind a whole value.
    cases rest with
    | cons token rest => cases fed
    | nil =>
        cases fed
        exact ⟨spelled, ⟨by simpa using split, by simpa using shallow⟩, rfl⟩
  · rintro ⟨spelled, spells, rfl⟩
    exact read_of_scan spells.scanned spells.shallow

/-! ## The members of a spelled object -/

/-- The last value that a spelled object gives for a key, as it is read. -/
def Members.last? (key : String) (members : Members) : Option Value :=
  (Members.get? key members.reverse).map Value.sorted

theorem get?_sorted (key : String) (members : Members) :
    Members.get? key (Members.ofList (membersSorted members)) = Members.last? key members := by
  rw [membersSorted_eq_map]
  induction members using List.reverseRecOn with
  | nil => rfl
  | append_singleton members member ih =>
      obtain ⟨name, value⟩ := member
      have last : Members.ofList ((members ++ [(name, value)]).map fun member =>
          (member.1, member.2.sorted)) =
        Members.insert name value.sorted
          (Members.ofList (members.map fun member => (member.1, member.2.sorted))) := by
        simp [Members.ofList]
      rw [last, Members.last?, List.reverse_append]
      by_cases same : name = key
      · simp [same, Members.get?]
      · rw [get?_insert_of_ne (Ne.symm same), ih]
        simp [same, Members.get?, Members.last?]

/-- What is read of an object are its spelled members, sorted. -/
theorem read_eq_object_iff {text : String} {held : Members} :
    Value.read text = .ok (.object held) ↔
      ∃ members, Spells text (.object members) ∧
        Members.ofList (membersSorted members) = held := by
  rw [read_eq_ok_iff]
  constructor
  · rintro ⟨spelled, spells, sorted⟩
    cases spelled with
    | object members => exact ⟨members, spells, Value.object.inj sorted⟩
    | _ => cases sorted
  · rintro ⟨members, spells, rfl⟩
    exact ⟨.object members, spells, rfl⟩

end PageSession.Json
