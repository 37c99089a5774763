import PageSession.Json.Number

/-!
# JSON values

Objects list their members by key in the order of code points, each key once.
Inserting a member keeps that order and replaces a member of the same key.
-/

namespace PageSession

namespace Json

/-- A JSON value. -/
inductive Value where
  | null
  | bool (value : Bool)
  | number (value : Number)
  | string (value : String)
  | array (items : List Value)
  | object (members : List (String × Value))
deriving BEq, Repr, Inhabited

/-- The members of an object. -/
abbrev Members := List (String × Value)

namespace Members

/-- The value under a key. -/
def get? (key : String) : Members → Option Value
  | [] => none
  | (name, value) :: rest => if name = key then some value else get? key rest

/-- Put a value under a key, in the place of the key's former value or where
the order of keys wants it. -/
def insert (key : String) (value : Value) : Members → Members
  | [] => [(key, value)]
  | (name, held) :: rest =>
      if key = name then (key, value) :: rest
      else if key < name then (key, value) :: (name, held) :: rest
      else (name, held) :: insert key value rest

/-- The members given in any order; the last value of a repeated key stays. -/
def ofList (pairs : List (String × Value)) : Members :=
  pairs.foldl (fun members pair => insert pair.1 pair.2 members) []

/-- Keys ascend strictly. -/
def Ordered (members : Members) : Prop :=
  (members.map Prod.fst).Pairwise (· < ·)

end Members

namespace Value

/-- An object with the given members. -/
def ofMembers (pairs : List (String × Value)) : Value :=
  .object (Members.ofList pairs)

/-- An array of texts. -/
def strings (texts : List String) : Value :=
  .array (texts.map .string)

/-- A natural number as a value. -/
def nat (value : Nat) : Value :=
  .number (.integer value)

/-- The member of an object; other values have none. -/
def member? (value : Value) (key : String) : Option Value :=
  match value with
  | .object members => Members.get? key members
  | _ => none

end Value

end Json

end PageSession
