import PageSession.Json.Layout
import PageSession.Json.Reader
import PageSession.Session.Timestamp

/-!
# The entries of a storage file

The file is a JSON object; under each key stands an entry with a value and the
time when it was stored, as an object or as an array of the two.  It is read in
one pass, and the first thing out of order, in form or in type, decides what is
wrong with the file.
-/

namespace PageSession

/-- A stored value. -/
structure StoredEntry where
  value : String
  storedAt : String
deriving DecidableEq, Repr

/-- What is wrong with a storage file. -/
inductive Corruption where
  /-- It is no JSON text. -/
  | form (defect : Json.Defect)
  /-- Something in it has the wrong type. -/
  | type
deriving DecidableEq, Repr

/-- The entries of a storage file, by key. -/
abbrev StoredEntries := List (String × StoredEntry)

namespace StoredEntries

/-- The entry under a key. -/
def get? (entries : StoredEntries) (key : String) : Option StoredEntry :=
  (entries.find? (·.1 == key)).map (·.2)

/-- Put an entry under a key, in the place of the one that was there. -/
def set (entries : StoredEntries) (key : String) (entry : StoredEntry) : StoredEntries :=
  entries.filter (·.1 != key) ++ [(key, entry)]

def toJson (entries : StoredEntries) : Json.Value :=
  .object (entries.map fun (key, entry) =>
    (key, .object [("value", .string entry.value), ("stored_at", .string entry.storedAt)]))

/-- The text of a storage file. -/
def text (entries : StoredEntries) : String :=
  entries.toJson.linedText

/-! ## Reading -/

/-- A part of the reading that may fail. -/
abbrev Checked (α : Type) := Except Corruption α

/-- A part of a token, its defect being one of form. -/
def formed {α : Type} (part : Except Json.Defect α) : Checked α :=
  part.mapError .form

def misplaced {α : Type} : Checked α :=
  .error (.form .misplaced)

/-- A token that begins a value, but not one of the type wanted: it is of the
wrong type if it is well formed. -/
def wrongType {α : Type} (token : Json.Token) : Checked α :=
  match token with
  | .word taken => formed taken >>= fun _ => .error .type
  | .number taken _ => formed taken >>= fun _ => .error .type
  | .quoted taken _ => formed taken >>= fun _ => .error .type
  | .openArray | .openObject => .error .type
  | .closeArray | .closeObject | .colon | .comma | .stray => misplaced

/-- A token that has to be a text. -/
def textToken (token : Json.Token) : Checked String :=
  match token with
  | .quoted taken _ => formed taken
  | other => wrongType other

/-- A token that has to be a point in time, which is told by universal time. -/
def timeToken (token : Json.Token) : Checked String := do
  let text ← textToken token
  match Timestamp.moment? text with
  | some moment => .ok moment.text
  | none => .error .type

/-- A token that has to be a key. -/
def keyToken (token : Json.Token) : Checked String :=
  match token with
  | .quoted taken _ => formed taken
  | _ => misplaced

/-- The fields of an entry that were read. -/
structure Fields where
  value : Option String := none
  storedAt : Option String := none

/-- A field of an entry. -/
inductive FieldName where
  | value
  | storedAt
  /-- A field that nobody reads. -/
  | unknown

def FieldName.of (name : String) : FieldName :=
  if name = "value" then .value else if name = "stored_at" then .storedAt else .unknown

/-- A known field may be given once only. -/
def Fields.checkNew (fields : Fields) (name : FieldName) : Checked Unit :=
  match name with
  | .value => if fields.value.isSome then .error .type else .ok ()
  | .storedAt => if fields.storedAt.isSome then .error .type else .ok ()
  | .unknown => .ok ()

/-- Both fields are needed. -/
def Fields.entry (fields : Fields) : Checked StoredEntry :=
  match fields.value, fields.storedAt with
  | some value, some storedAt => .ok { value, storedAt }
  | _, _ => .error .type

/-- Where the reading stands: before or inside an entry, with the entries read
so far. -/
inductive Reading where
  | start
  | firstKey
  | nextKey (done : StoredEntries)
  | keyColon (done : StoredEntries) (key : String)
  | entry (done : StoredEntries) (key : String)
  /-- Inside an entry that is an object. -/
  | fieldKey (done : StoredEntries) (key : String) (fields : Fields) (first : Bool)
  | fieldColon (done : StoredEntries) (key : String) (fields : Fields) (name : FieldName)
  | fieldValue (done : StoredEntries) (key : String) (fields : Fields) (name : FieldName)
  | skipping (done : StoredEntries) (key : String) (fields : Fields) (assembly : Json.Assembly)
  | afterField (done : StoredEntries) (key : String) (fields : Fields)
  /-- Inside an entry that is an array. -/
  | firstItem (done : StoredEntries) (key : String)
  | afterFirstItem (done : StoredEntries) (key : String) (value : String)
  | secondItem (done : StoredEntries) (key : String) (value : String)
  | afterItems (done : StoredEntries) (key : String) (entry : StoredEntry)
  | afterEntry (done : StoredEntries)
  | complete (done : StoredEntries)

namespace Reading

/-- The next token of a field that nobody reads. -/
def skip (done : StoredEntries) (key : String) (fields : Fields) (assembly : Json.Assembly)
    (token : Json.Token) : Checked Reading := do
  let next ← formed (assembly.skip token)
  match next with
  | .complete _ => .ok (.afterField done key fields)
  | unfinished => .ok (.skipping done key fields unfinished)

/-- The name of a field. -/
def takeField (done : StoredEntries) (key : String) (fields : Fields) (token : Json.Token) :
    Checked Reading := do
  let name := FieldName.of (← keyToken token)
  fields.checkNew name
  .ok (.fieldColon done key fields name)

/-- The first token of a field's value. -/
def takeValue (done : StoredEntries) (key : String) (fields : Fields) (name : FieldName)
    (token : Json.Token) : Checked Reading :=
  match name with
  | .value => do
      let value ← textToken token
      .ok (.afterField done key { fields with value := some value })
  | .storedAt => do
      let storedAt ← timeToken token
      .ok (.afterField done key { fields with storedAt := some storedAt })
  | .unknown => skip done key fields (.awaitValue []) token

/-- The end of an entry that is an object. -/
def closeEntry (done : StoredEntries) (key : String) (fields : Fields) : Checked Reading := do
  let entry ← fields.entry
  .ok (.afterEntry (done.set key entry))

/-- The next token. -/
def step : Reading → Json.Token → Checked Reading
  | .start, .openObject => .ok .firstKey
  | .start, token => wrongType token
  | .firstKey, .closeObject => .ok (.complete [])
  | .firstKey, token => do .ok (.keyColon [] (← keyToken token))
  | .nextKey done, token => do .ok (.keyColon done (← keyToken token))
  | .keyColon done key, .colon => .ok (.entry done key)
  | .entry done key, .openObject => .ok (.fieldKey done key {} true)
  | .entry done key, .openArray => .ok (.firstItem done key)
  | .entry _ _, token => wrongType token
  | .fieldKey done key fields true, .closeObject => closeEntry done key fields
  | .fieldKey done key fields _, token => takeField done key fields token
  | .fieldColon done key fields name, .colon => .ok (.fieldValue done key fields name)
  | .fieldValue done key fields name, token => takeValue done key fields name token
  | .skipping done key fields assembly, token => skip done key fields assembly token
  | .afterField done key fields, .comma => .ok (.fieldKey done key fields false)
  | .afterField done key fields, .closeObject => closeEntry done key fields
  | .firstItem _ _, .closeArray => .error .type
  | .firstItem done key, token => do .ok (.afterFirstItem done key (← textToken token))
  | .afterFirstItem done key value, .comma => .ok (.secondItem done key value)
  | .afterFirstItem _ _ _, .closeArray => .error .type
  | .secondItem done key value, token => do
      .ok (.afterItems done key { value, storedAt := ← timeToken token })
  | .afterItems done key stored, .closeArray => .ok (.afterEntry (done.set key stored))
  | .afterItems _ _ _, .comma => misplaced
  | .afterEntry done, .comma => .ok (.nextKey done)
  | .afterEntry done, .closeObject => .ok (.complete done)
  | .keyColon .., _ | .fieldColon .., _ | .afterField .., _ | .afterFirstItem .., _
  | .afterItems .., _ | .afterEntry .., _ | .complete .., _ => misplaced

/-- The entries, if the text may end here. -/
def finish : Reading → Checked StoredEntries
  | .complete done => .ok done
  | _ => .error (.form .truncated)

end Reading

/-- The entries of a storage file with a text. -/
def read (text : String) : Checked StoredEntries :=
  (Json.Token.scan text).foldlM Reading.step .start >>= Reading.finish

end StoredEntries

end PageSession
