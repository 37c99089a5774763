import PageSession.Json.Reader
import PageSession.Json.Writer

/-!
# Notifications

A notification names a method and may carry positional parameters; nothing
answers it.  On the wire it is one JSON object, a frame.  Reading a frame
reports the first of its defects in a fixed order.
-/

namespace PageSession

/-- A one-way message.  Absent parameters differ from an empty list. -/
structure Notification where
  method : String
  params : Option (List Json.Value)

/-- Why a frame, or the parameters of a known method, are refused. -/
inductive WireError where
  /-- The frame is no JSON text. -/
  | malformed (defect : Json.Defect)
  | notAnObject
  /-- `shown` is the text of the version that the frame gives. -/
  | unsupportedVersion (shown : String)
  | missingMethod
  | paramsNotArray (method : String)
  | invalidParams (method : String) (reason : String)

/-- The text of a refusal. -/
def WireError.message [Json.Complaints] : WireError → String
  | .malformed defect => "malformed frame: " ++ Json.Complaints.form defect
  | .notAnObject => "frame is not a JSON object"
  | .unsupportedVersion shown => "unsupported jsonrpc version: " ++ shown
  | .missingMethod => "missing method name"
  | .paramsNotArray method => "params of " ++ method ++ " must be an array"
  | .invalidParams method reason => "invalid params for " ++ method ++ ": " ++ reason

namespace Notification

/-- The version that frames state. -/
def version : String := "2.0"

/-- A notification without parameters. -/
def bare (method : String) : Notification :=
  { method, params := none }

/-- A notification with parameters. -/
def carrying (method : String) (params : List Json.Value) : Notification :=
  { method, params := some params }

/-- The parameters; absent ones count as none. -/
def arguments (notification : Notification) : List Json.Value :=
  notification.params.getD []

/-- The members of the frame, in the order in which they are written. -/
def members (notification : Notification) : List (String × Json.Value) :=
  let head := [("jsonrpc", .string version), ("method", .string notification.method)]
  match notification.params with
  | none => head
  | some params => head ++ [("params", .array params)]

/-- The frame of a notification. -/
def frame (notification : Notification) : String :=
  (Json.Value.object notification.members).text

/-- The version member, if given, has to state the version. -/
def checkVersion (members : Json.Members) : Except WireError Unit :=
  match Json.Members.get? "jsonrpc" members with
  | none => .ok ()
  | some (.string stated) =>
      if stated = version then .ok ()
      else .error (.unsupportedVersion (Json.Value.string stated).text)
  | some other => .error (.unsupportedVersion other.text)

/-- The method member has to be a text. -/
def takeMethod (members : Json.Members) : Except WireError String :=
  match Json.Members.get? "method" members with
  | some (.string method) => .ok method
  | _ => .error .missingMethod

/-- The params member may be absent or null; else it has to be an array. -/
def takeParams (method : String) (members : Json.Members) :
    Except WireError (Option (List Json.Value)) :=
  match Json.Members.get? "params" members with
  | none | some .null => .ok none
  | some (.array params) => .ok (some params)
  | some _ => .error (.paramsNotArray method)

/-- The notification that the members of a frame describe. -/
def ofMembers (members : Json.Members) : Except WireError Notification := do
  checkVersion members
  let method ← takeMethod members
  let params ← takeParams method members
  .ok { method, params }

/-- The notification that a frame holds. -/
def ofFrame (frame : String) : Except WireError Notification :=
  match Json.Value.read frame with
  | .error defect => .error (.malformed defect)
  | .ok (.object members) => ofMembers members
  | .ok _ => .error .notAnObject

end Notification

end PageSession
