import PageSession.Json.Decode

/-!
# Scripts as the portal announces them

The wire form of a script: where its code comes from, what it provides and
what it requires.  Nothing is checked here beyond the types.
-/

namespace PageSession

/-- A script as announced.  One of `uri` and `source` should be given. -/
structure ScriptResource where
  uri : Option String := none
  source : Option String := none
  provides : List String := []
  requires : List String := []
deriving DecidableEq, Repr

namespace ScriptResource

/-- The members of the wire form in their order; absent ones are left out. -/
def members (resource : ScriptResource) : List (String × Json.Value) :=
  (resource.uri.map fun uri => ("uri", Json.Value.string uri)).toList
    ++ (resource.source.map fun source => ("source", Json.Value.string source)).toList
    ++ [("provides", .strings resource.provides), ("requires", .strings resource.requires)]

/-- The resource as a JSON value. -/
def toJson (resource : ScriptResource) : Json.Value :=
  .ofMembers resource.members

/-- The resource as JSON text. -/
def text (resource : ScriptResource) : String :=
  (Json.Value.object resource.members).text

/-- The fields in declaration order. -/
def fields : List (Json.Decode.Field ScriptResource) :=
  [{ name := "uri"
     set := fun value resource => do
      let uri ← Json.Decode.optional Json.Decode.string value
      .ok { resource with uri } },
   { name := "source"
     set := fun value resource => do
      let source ← Json.Decode.optional Json.Decode.string value
      .ok { resource with source } },
   { name := "provides"
     set := fun value resource => do
      let provides ← Json.Decode.list Json.Decode.string value
      .ok { resource with provides } },
   { name := "requires"
     set := fun value resource => do
      let requires ← Json.Decode.list Json.Decode.string value
      .ok { resource with requires } }]

/-- Missing members leave the resource without them. -/
def decode (value : Json.Value) : Json.Decoded ScriptResource :=
  Json.Decode.record "struct ScriptResource" fields {} value

end ScriptResource

/-- What one announcement asks the page to load. -/
structure PageResources where
  stylesheets : List String := []
  style : Option String := none
  scripts : List ScriptResource := []
deriving DecidableEq, Repr

end PageSession
