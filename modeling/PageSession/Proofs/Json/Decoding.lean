import PageSession.Json.Decode
import PageSession.Proofs.Json.Overlay

/-!
# What decoding puts into one part of a record

A part of a record is set by one field and left alone by the others.  After
decoding it is what the value of that field means, which an object gives by name
and an array by place, and what it was before if there is no such value.
-/

namespace PageSession.Json

/-- The value of a field, by its name in an object and by its place in an array;
null is no value. -/
def Value.part? (value : Value) (name : String) (place : Nat) : Option Value :=
  match value with
  | .object members => Members.stated? name members
  | .array items => items[place]?.filter (!·.isNull)
  | _ => none

theorem canonical_part? {value part : Value} {name : String} {place : Nat}
    (canonical : value.Canonical) (given : value.part? name place = some part) :
    part.Canonical := by
  cases value with
  | object members =>
      have found := (Option.filter_eq_some_iff.mp given).1
      exact (canonical_object.mp canonical).2 _ (mem_of_get?_eq_some found)
  | array items =>
      have found := (Option.filter_eq_some_iff.mp given).1
      exact canonical_array.mp canonical part (List.mem_of_getElem? found)
  | _ => cases given

namespace Decode

variable {α β γ : Type} {get : α → β} {means : Value → β → Prop}

theorem exists_of_bind_eq_ok {ε : Type} {first : Except ε α} {next : α → Except ε β}
    {result : β} (decoded : first >>= next = .ok result) :
    ∃ middle, first = .ok middle ∧ next middle = .ok result := by
  cases first with
  | error failure => cases decoded
  | ok middle => exact ⟨middle, rfl, decoded⟩

theorem exists_of_map_eq_ok {ε : Type} {convert : α → β} {first : Except ε α} {result : β}
    (decoded : first.map convert = .ok result) :
    ∃ content, first = .ok content ∧ convert content = result := by
  cases first with
  | error failure => cases decoded
  | ok content => exact ⟨content, rfl, Except.ok.inj decoded⟩

/-! ## Plain values -/

section Plain

variable {value : Value} {text : String}

theorem string_eq_ok_iff : string value = .ok text ↔ value = .string text := by
  cases value <;> simp [string]

theorem boolean_eq_ok_iff {flag : Bool} : boolean value = .ok flag ↔ value = .bool flag := by
  cases value <;> simp [boolean]

theorem count_eq_ok_iff {natural : Nat} :
    count value = .ok natural ↔ value = .nat natural := by
  constructor
  · intro decoded
    unfold count at decoded
    split at decoded <;> cases decoded
    rfl
  · rintro rfl
    rfl

theorem optional_path_eq_ok_iff {content : Option String} :
    optional path value = .ok content ↔ value = content.elim .null .string := by
  cases content <;> cases value <;> simp [optional, path, Except.map]

theorem list_map {item : Value → Decoded α} {written : α → Value}
    (decoded : ∀ content, item (written content) = .ok content) (contents : List α) :
    list item (.array (contents.map written)) = .ok contents := by
  change (contents.map written).mapM item = .ok contents
  induction contents with
  | nil => rfl
  | cons content contents ih =>
      rw [List.map_cons, List.mapM_cons, decoded, ih]
      rfl

theorem list_string_eq_ok_iff {texts : List String} :
    list string value = .ok texts ↔ value = .strings texts := by
  constructor
  · intro decoded
    cases value with
    | array items =>
        change items.mapM string = .ok texts at decoded
        induction items generalizing texts with
        | nil =>
            cases decoded
            rfl
        | cons item items ih =>
            rw [List.mapM_cons] at decoded
            obtain ⟨text, first, rest⟩ := exists_of_bind_eq_ok decoded
            obtain ⟨others, later, last⟩ := exists_of_bind_eq_ok rest
            cases last
            rw [string_eq_ok_iff.mp first, Value.array.inj (ih later)]
            rfl
    | _ => cases decoded
  · rintro rfl
    exact @list_map _ string Value.string (fun _ => rfl) texts

theorem table_string_eq_ok_iff {entries : List (String × String)} :
    table string value = .ok entries ↔
      value = .object (entries.map fun (name, text) => (name, .string text)) := by
  cases value with
  | object members =>
      rw [Value.object.injEq]
      change members.mapM _ = Except.ok entries ↔ _
      induction members generalizing entries with
      | nil => cases entries <;> simp [pure, Except.pure]
      | cons member members ih =>
          obtain ⟨name, item⟩ := member
          rw [List.mapM_cons]
          constructor
          · intro decoded
            obtain ⟨entry, first, rest⟩ := exists_of_bind_eq_ok decoded
            obtain ⟨others, later, last⟩ := exists_of_bind_eq_ok rest
            obtain ⟨text, held, rfl⟩ := exists_of_map_eq_ok first
            cases last
            rw [List.map_cons, ← ih.mp later, string_eq_ok_iff.mp held]
          · intro same
            cases entries with
            | nil => cases same
            | cons entry entries =>
                obtain ⟨first, rest⟩ := List.cons.inj same
                cases first
                rw [ih.mpr rest]
                rfl
  | _ => simp [table]

end Plain

/-! ## Parts of a record -/

/-- Setting a field leaves a part of the record alone. -/
def Field.Keeps (get : α → β) (field : Field α) : Prop :=
  ∀ ⦃value record result⦄, field.set value record = .ok result → get result = get record

/-- Setting a field makes a part of the record what the value means; after null the
part is what it is without a value. -/
structure Field.Gives (get : α → β) (means : Value → β → Prop) (absent : β)
    (field : Field α) : Prop where
  said : ∀ {value record result}, field.set value record = .ok result →
    value.isNull = false → means value (get result)
  null : ∀ {value record result}, field.set value record = .ok result →
    value.isNull = true → get result = absent

theorem Field.keeps_of_put {name : String} {decode : Value → Decoded γ}
    {put : γ → α → α} (kept : ∀ content record, get (put content record) = get record) :
    Field.Keeps get
      ⟨name, fun value record => decode value >>= fun content => .ok (put content record)⟩ := by
  intro value record result set
  obtain ⟨content, _, put⟩ := exists_of_bind_eq_ok set
  cases put
  exact kept content record

theorem Field.gives_of_put {name : String} {decode : Value → Decoded β} {put : β → α → α}
    {absent : β} (got : ∀ content record, get (put content record) = content)
    (said : ∀ {value content}, decode value = .ok content → value.isNull = false →
      means value content)
    (null : ∀ {content}, decode .null = .ok content → content = absent) :
    Field.Gives get means absent
      ⟨name, fun value record => decode value >>= fun content => .ok (put content record)⟩ := by
  constructor
  · intro value record result set present
    obtain ⟨content, decoded, put⟩ := exists_of_bind_eq_ok set
    cases put
    rw [got]
    exact said decoded present
  · intro value record result set missing
    obtain ⟨content, decoded, put⟩ := exists_of_bind_eq_ok set
    cases put
    cases value with
    | null =>
        rw [got]
        exact null decoded
    | _ => cases missing

/-- A part is what its value means, or what it is without one. -/
def Settled (means : Value → β → Prop) (absent : β) (value : Option Value)
    (content : β) : Prop :=
  match value with
  | some value => means value content
  | none => content = absent

theorem Field.Gives.settled {absent : β} {field : Field α} {value : Value}
    {record result : α} (gives : field.Gives get means absent)
    (set : field.set value record = .ok result) :
    Settled means absent ((some value).filter (!·.isNull)) (get result) := by
  cases null : value.isNull with
  | true => simpa [Settled, Option.filter, null] using gives.null set null
  | false => simpa [Settled, Option.filter, null] using gives.said set null

/-! ## Objects -/

section Members

variable {fields : List (Field α)} {record result : α} {key : String} {value : Value}

theorem members_cons_of_some {field : Field α}
    (found : (fields.find? fun field => field.name == key) = some field) (given : Members) :
    members fields record ((key, value) :: given) =
      field.set value record >>= fun next => members fields next given := by
  rw [members, List.foldlM_cons]
  simp only [found]
  rfl

theorem members_cons_of_none (found : (fields.find? fun field => field.name == key) = none)
    (given : Members) :
    members fields record ((key, value) :: given) = members fields record given := by
  rw [members, List.foldlM_cons]
  simp only [found]
  rfl

theorem members_cons {given : Members}
    (decoded : members fields record ((key, value) :: given) = .ok result) :
    ∃ next, members fields next given = .ok result ∧
      ((∃ field ∈ fields, field.name = key ∧ field.set value record = .ok next) ∨
        (∀ field ∈ fields, field.name ≠ key) ∧ next = record) := by
  cases found : fields.find? fun field => field.name == key with
  | none =>
      rw [members_cons_of_none found] at decoded
      refine ⟨record, decoded, .inr ⟨?_, rfl⟩⟩
      intro field member
      simpa using List.find?_eq_none.mp found field member
  | some field =>
      rw [members_cons_of_some found] at decoded
      obtain ⟨next, set, rest⟩ := exists_of_bind_eq_ok decoded
      have named : field.name = key := by simpa using List.find?_some found
      exact ⟨next, rest, .inl ⟨field, List.mem_of_find?_eq_some found, named, set⟩⟩

end Members

variable {before after : List (Field α)} {field : Field α} {record result : α}

/-- Every field but one has another name and leaves the part alone. -/
def Apart (get : α → β) (field : Field α) (others : List (Field α)) : Prop :=
  ∀ other ∈ others, other.name ≠ field.name ∧ other.Keeps get

theorem Apart.nil : Apart get field [] := by
  simp [Apart]

theorem mem_append_of_ne {other : Field α} (placed : other ∈ before ++ field :: after)
    (different : other ≠ field) : other ∈ before ++ after := by
  simpa [different] using placed

theorem get_members_of_forall_ne {given : Members}
    (apart : Apart get field (before ++ after))
    (unnamed : ∀ member ∈ given, field.name ≠ member.1)
    (decoded : members (before ++ field :: after) record given = .ok result) :
    get result = get record := by
  induction given generalizing record with
  | nil =>
      cases decoded
      rfl
  | cons member given ih =>
      obtain ⟨key, value⟩ := member
      obtain ⟨now, later⟩ := List.forall_mem_cons.mp unnamed
      obtain ⟨next, rest, ⟨other, placed, named, set⟩ | ⟨_, rfl⟩⟩ := members_cons decoded
      · have different : other ≠ field := by
          rintro rfl
          exact now named
        rw [ih later rest, (apart other (mem_append_of_ne placed different)).2 set]
      · exact ih later rest

theorem settled_members {given : Members} (apart : Apart get field (before ++ after))
    (gives : field.Gives get means (get record)) (ordered : Members.Ordered given)
    (decoded : members (before ++ field :: after) record given = .ok result) :
    Settled means (get record) (Members.stated? field.name given) (get result) := by
  induction given generalizing record with
  | nil =>
      cases decoded
      rfl
  | cons member given ih =>
      obtain ⟨key, value⟩ := member
      obtain ⟨behind, ordered⟩ := ordered_cons.mp ordered
      obtain ⟨next, rest, step⟩ := members_cons decoded
      by_cases named : key = field.name
      · subst named
        -- The keys ascend, so no later member names the field again.
        have unnamed : ∀ member ∈ given, field.name ≠ member.1 := by
          intro member placed same
          exact String.lt_irrefl _ (same ▸ behind member placed)
        have kept := get_members_of_forall_ne apart unnamed rest
        have set : field.set value record = .ok next := by
          rcases step with ⟨other, placed, named, set⟩ | ⟨absent, _⟩
          · have same : other = field := by
              by_contra different
              exact (apart other (mem_append_of_ne placed different)).1 named
            exact same ▸ set
          · exact absurd rfl (absent field (by simp))
        rw [kept]
        simpa only [Members.stated?, Members.get?, if_true] using gives.settled set
      · have kept : get next = get record := by
          rcases step with ⟨other, placed, same, set⟩ | ⟨_, rfl⟩
          · have different : other ≠ field := by
              rintro rfl
              exact named same.symm
            exact (apart other (mem_append_of_ne placed different)).2 set
          · rfl
        rw [← kept] at gives ⊢
        simpa [Members.stated?, Members.get?, named] using ih gives ordered rest

/-! ## Arrays -/

theorem get_positions_of_keeps {fields : List (Field α)} {items : List Value}
    (kept : ∀ field ∈ fields, field.Keeps get)
    (decoded : positions fields record items = .ok result) : get result = get record := by
  induction fields generalizing record items with
  | nil =>
      cases decoded
      rfl
  | cons field fields ih =>
      cases items with
      | nil =>
          cases decoded
          rfl
      | cons value items =>
          obtain ⟨now, later⟩ := List.forall_mem_cons.mp kept
          rw [positions, List.zip_cons_cons, List.foldlM_cons] at decoded
          obtain ⟨next, set, rest⟩ := exists_of_bind_eq_ok decoded
          rw [ih later rest, now set]

theorem settled_positions {items : List Value} (apart : Apart get field (before ++ after))
    (gives : field.Gives get means (get record))
    (decoded : positions (before ++ field :: after) record items = .ok result) :
    Settled means (get record) (items[before.length]?.filter (!·.isNull)) (get result) := by
  induction before generalizing record items with
  | nil =>
      cases items with
      | nil =>
          cases decoded
          rfl
      | cons value items =>
          have later : ∀ other ∈ after, other.Keeps get := fun other member =>
            (apart other member).2
          rw [positions, List.nil_append, List.zip_cons_cons, List.foldlM_cons] at decoded
          obtain ⟨next, set, rest⟩ := exists_of_bind_eq_ok decoded
          rw [get_positions_of_keeps later rest]
          exact gives.settled set
  | cons first before ih =>
      cases items with
      | nil =>
          cases decoded
          rfl
      | cons value items =>
          obtain ⟨now, later⟩ := List.forall_mem_cons.mp apart
          rw [positions, List.cons_append, List.zip_cons_cons, List.foldlM_cons] at decoded
          obtain ⟨next, set, rest⟩ := exists_of_bind_eq_ok decoded
          have kept := now.2 set
          rw [← kept] at gives ⊢
          simpa using ih later gives rest

/-! ## Records -/

theorem record_null_ne_ok (expected : String) (fields : List (Field α)) (start result : α) :
    Decode.record expected fields start .null ≠ .ok result := by
  intro decoded
  cases decoded

/-- A part of a decoded record is what the value of its field means. -/
theorem settled_record (get : α → β) (before : List (Field α)) (field : Field α)
    (after : List (Field α)) {expected : String} {value : Value}
    (apart : Apart get field (before ++ after))
    (gives : field.Gives get means (get record)) (canonical : value.Canonical)
    (decoded : Decode.record expected (before ++ field :: after) record value = .ok result) :
    Settled means (get record) (value.part? field.name before.length) (get result) := by
  cases value with
  | object given =>
      exact settled_members apart gives (canonical_object.mp canonical).1 decoded
  | array items =>
      obtain ⟨middle, placed, checked⟩ := exists_of_bind_eq_ok decoded
      have same : middle = result := by
        unfold checkSurplus at checked
        split at checked
        · cases checked
        · cases checked
          rfl
      exact same ▸ settled_positions apart gives placed
  | _ => cases decoded

/-- A part of a record that is itself part of a value. -/
theorem settled_nested (get : α → β) (before : List (Field α)) (field : Field α)
    (after : List (Field α)) {expected name : String} {place : Nat} {value : Value}
    (canonical : value.Canonical)
    (whole : Settled (fun part content =>
        Decode.record expected (before ++ field :: after) record part = .ok content)
      record (value.part? name place) result)
    (apart : Apart get field (before ++ after))
    (gives : field.Gives get means (get record)) :
    Settled means (get record)
      ((value.part? name place).bind fun part => part.part? field.name before.length)
      (get result) := by
  cases given : value.part? name place with
  | none =>
      rw [given] at whole
      exact congrArg get whole
  | some part =>
      rw [given] at whole
      exact settled_record get before field after apart gives (canonical_part? canonical given)
        whole

/-! ## Whether a record decodes -/

/-- A field takes a value into some record. -/
def Field.Accepts (field : Field α) (value : Value) : Prop :=
  ∃ record result, field.set value record = .ok result

/-- A field that takes a value into one record takes it into all. -/
def Field.Uniform (field : Field α) : Prop :=
  ∀ ⦃value⦄, field.Accepts value → ∀ record, ∃ result, field.set value record = .ok result

theorem Field.uniform_of_put {name : String} {decode : Value → Decoded γ} {put : γ → α → α} :
    Field.Uniform
      ⟨name, fun value record => decode value >>= fun content => .ok (put content record)⟩ := by
  rintro value ⟨_, _, set⟩ record
  obtain ⟨content, decoded, -⟩ := exists_of_bind_eq_ok set
  exact ⟨put content record, by simp [decoded, bind, Except.bind]⟩

theorem Field.accepts_put_iff (record : α) {name : String} {decode : Value → Decoded γ}
    {put : γ → α → α} {value : Value} :
    Field.Accepts
      ⟨name, fun value record => decode value >>= fun content => .ok (put content record)⟩
      value ↔ ∃ content, decode value = .ok content := by
  constructor
  · rintro ⟨_, _, set⟩
    obtain ⟨content, decoded, -⟩ := exists_of_bind_eq_ok set
    exact ⟨content, decoded⟩
  · rintro ⟨content, decoded⟩
    exact ⟨record, put content record, by simp [decoded, bind, Except.bind]⟩

theorem exists_members_iff {fields : List (Field α)}
    (uniform : ∀ field ∈ fields, field.Uniform) {given : Members} (record : α) :
    (∃ result, members fields record given = .ok result) ↔
      ∀ member ∈ given, ∀ field ∈ fields.find? fun field => field.name == member.1,
        field.Accepts member.2 := by
  induction given generalizing record with
  | nil => simp [members, pure, Except.pure]
  | cons member given ih =>
      obtain ⟨key, value⟩ := member
      rw [List.forall_mem_cons]
      cases found : fields.find? fun field => field.name == key with
      | none => simpa [members_cons_of_none found] using ih record
      | some field =>
          have uniform := uniform field (List.mem_of_find?_eq_some found)
          rw [members_cons_of_some found]
          constructor
          · rintro ⟨result, decoded⟩
            obtain ⟨next, set, rest⟩ := exists_of_bind_eq_ok decoded
            refine ⟨?_, (ih next).mp ⟨result, rest⟩⟩
            rintro _ ⟨⟩
            exact ⟨record, next, set⟩
          · rintro ⟨accepts, rest⟩
            obtain ⟨next, set⟩ := uniform (accepts field rfl) record
            obtain ⟨result, decoded⟩ := (ih next).mpr rest
            exact ⟨result, by simp [set, bind, Except.bind, decoded]⟩

theorem exists_members_iff_get? {fields : List (Field α)}
    (uniform : ∀ field ∈ fields, field.Uniform) {given : Members}
    (ordered : Members.Ordered given) (record : α) :
    (∃ result, members fields record given = .ok result) ↔
      ∀ key value, Members.get? key given = some value →
        ∀ field ∈ fields.find? fun field => field.name == key, field.Accepts value := by
  rw [exists_members_iff uniform]
  exact forall_mem_iff
    (fun key value => ∀ field ∈ fields.find? fun field => field.name == key, field.Accepts value)
    ordered

/-- Members that every field takes, or does not take, as it does those of another object
decode as that object does. -/
theorem exists_members_congr {fields : List (Field α)}
    (uniform : ∀ field ∈ fields, field.Uniform) {first second : Members}
    (firstOrdered : Members.Ordered first) (secondOrdered : Members.Ordered second) (record : α)
    (same : ∀ field ∈ fields,
      (∀ value, Members.get? field.name first = some value → field.Accepts value) ↔
        ∀ value, Members.get? field.name second = some value → field.Accepts value) :
    (∃ result, members fields record first = .ok result) ↔
      ∃ result, members fields record second = .ok result := by
  rw [exists_members_iff_get? uniform firstOrdered, exists_members_iff_get? uniform secondOrdered]
  apply forall_congr'
  intro key
  cases found : fields.find? fun field => field.name == key with
  | none => simp
  | some field =>
      obtain rfl : field.name = key := by simpa using List.find?_some found
      simpa using same field (List.mem_of_find?_eq_some found)

end Decode

end PageSession.Json
