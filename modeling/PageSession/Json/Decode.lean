import PageSession.Json.Writer
import PageSession.Text.Quoted

/-!
# Decoding JSON values

A value is decoded into a typed one part after part, object members in the
order of their keys; the first part that does not fit decides the mismatch.
A record may also be given as an array of its fields in declaration order.
-/

namespace PageSession

namespace Json

/-- Why a value does not fit the type it is decoded into. -/
inductive Mismatch where
  | invalidType (found : Value) (expected : String)
  | invalidValue (found : Value) (expected : String)
  | invalidLength (length : Nat) (expected : String)
  | missingField (name : String)
  | unknownVariant (name : String) (choices : String)

/-- The name by which a message calls a value. -/
def Value.named : Value → String
  | .null => "null"
  | .bool value => "boolean `" ++ (if value then "true" else "false") ++ "`"
  | .number (.integer value) =>
      "integer `" ++ String.ofList (Number.integerChars value) ++ "`"
  | .number (.float value) =>
      "floating point `" ++ String.ofList (Number.floatChars value) ++ "`"
  | .string value => "string " ++ Text.shown value
  | .array _ => "sequence"
  | .object _ => "map"

/-- The text of a mismatch. -/
def Mismatch.message : Mismatch → String
  | .invalidType found expected => "invalid type: " ++ found.named ++ ", expected " ++ expected
  | .invalidValue found expected => "invalid value: " ++ found.named ++ ", expected " ++ expected
  | .invalidLength length expected =>
      "invalid length " ++ Text.decimal length ++ ", expected " ++ expected
  | .missingField name => "missing field `" ++ name ++ "`"
  | .unknownVariant name choices => "unknown variant `" ++ name ++ "`, expected " ++ choices

/-- The outcome of decoding. -/
abbrev Decoded (α : Type) := Except Mismatch α

namespace Decode

def string (value : Value) : Decoded String :=
  match value with
  | .string text => .ok text
  | other => .error (.invalidType other "a string")

def boolean (value : Value) : Decoded Bool :=
  match value with
  | .bool flag => .ok flag
  | other => .error (.invalidType other "a boolean")

/-- A count below `2 ^ 64`. -/
def count (value : Value) : Decoded Nat :=
  match value with
  | .number (.integer (.ofNat magnitude)) => .ok magnitude
  | .number (.integer (.negSucc magnitude)) =>
      .error (.invalidValue (.number (.integer (.negSucc magnitude))) "u64")
  | other => .error (.invalidType other "u64")

/-- The path of a file. -/
def path (value : Value) : Decoded String :=
  match value with
  | .string text => .ok text
  | other => .error (.invalidType other "path string")

/-- A list of parts, decoded from left to right. -/
def list {α : Type} (item : Value → Decoded α) (value : Value) : Decoded (List α) :=
  match value with
  | .array items => items.mapM item
  | other => .error (.invalidType other "a sequence")

/-- A part that may be null. -/
def optional {α : Type} (part : Value → Decoded α) (value : Value) : Decoded (Option α) :=
  match value with
  | .null => .ok none
  | present => (part present).map some

/-- A table from names to parts, in the order of names. -/
def table {α : Type} (part : Value → Decoded α) (value : Value) : Decoded (List (String × α)) :=
  match value with
  | .object members => members.mapM fun (name, item) => (part item).map (name, ·)
  | other => .error (.invalidType other "a map")

/-- A field of a record: its name and how its value is put into the record. -/
structure Field (α : Type) where
  name : String
  set : Value → α → Decoded α

/-- The fields that an object gives, put into a record; unknown members are
passed over. -/
def members {α : Type} (fields : List (Field α)) (record : α) (given : Members) : Decoded α :=
  given.foldlM (fun record (name, value) =>
    match fields.find? fun field => field.name == name with
    | some field => field.set value record
    | none => .ok record) record

/-- The fields that an array gives by position. -/
def positions {α : Type} (fields : List (Field α)) (record : α) (items : List Value) : Decoded α :=
  (fields.zip items).foldlM (fun record (field, value) => field.set value record) record

/-- A surplus of items over fields is an error once all fields are decoded. -/
def checkSurplus {α : Type} (fields : List (Field α)) (items : List Value) (record : α) :
    Decoded α :=
  if fields.length < items.length then
    .error (.invalidLength items.length "fewer elements in array")
  else .ok record

/-- A record whose missing fields keep the values they have in `start`. -/
def record {α : Type} (expected : String) (fields : List (Field α)) (start : α) (value : Value) :
    Decoded α :=
  match value with
  | .object given => members fields start given
  | .array items => positions fields start items >>= checkSurplus fields items
  | other => .error (.invalidType other expected)

end Decode

end Json

end PageSession
