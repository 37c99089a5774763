import PageSession.Notification.Outgoing
import PageSession.Script.Resource

/-!
# Notifications that the page understands

Four methods of the portal have a meaning of their own; their parameters are
positional.  A missing parameter counts as null, and parameters beyond the last
one that a method takes are not looked at.
-/

namespace PageSession

/-- The arrangement that the portal last reported, kept as it came. -/
structure PageLayout where
  preview : Json.Value
  tabs : Json.Value

namespace PageLayout

/-- The members in their order. -/
def members (layout : PageLayout) : List (String × Json.Value) :=
  [("previewLayout", layout.preview), ("tabsLayout", layout.tabs)]

/-- The layout as JSON text. -/
def text (layout : PageLayout) : String :=
  (Json.Value.object layout.members).text

/-- Both parts are needed, as members or as the items of an array. -/
def decode (value : Json.Value) : Json.Decoded PageLayout :=
  match value with
  | .object members =>
      match Json.Members.get? "previewLayout" members, Json.Members.get? "tabsLayout" members with
      | some preview, some tabs => .ok { preview, tabs }
      | none, _ => .error (.missingField "previewLayout")
      | some _, none => .error (.missingField "tabsLayout")
  | .array [preview, tabs] => .ok { preview, tabs }
  | .array items =>
      if items.length < 2 then
        .error (.invalidLength items.length "struct PortalLayout with 2 elements")
      else .error (.invalidLength items.length "fewer elements in array")
  | other => .error (.invalidType other "struct PortalLayout")

end PageLayout

/-- A call of a portlet's method by the portal. -/
structure PortletCall where
  portletClass : String
  portlet : PortletId
  method : String
  params : List Json.Value

/-- A notification of the portal, understood by its method. -/
inductive PortalRequest where
  | reload
  | addResources (resources : PageResources)
  | restoreLayout (layout : PageLayout)
  | callPortlet (call : PortletCall)
  | other (notification : Notification)

namespace Notification

/-- The parameter at a position, null counting as absent. -/
def optionalParam {α : Type} (decode : Json.Value → Json.Decoded α)
    (notification : Notification) (index : Nat) : Except WireError (Option α) :=
  match notification.arguments[index]? with
  | none | some .null => .ok none
  | some value =>
      match decode value with
      | .ok part => .ok (some part)
      | .error mismatch =>
          .error (.invalidParams notification.method
            ("argument " ++ Text.decimal index ++ ": " ++ mismatch.message))

/-- The parameter at a position, which has to be given. -/
def requiredParam {α : Type} (decode : Json.Value → Json.Decoded α)
    (notification : Notification) (index : Nat) : Except WireError α := do
  match ← optionalParam decode notification index with
  | some part => .ok part
  | none =>
      .error (.invalidParams notification.method
        ("missing argument " ++ Text.decimal index))

/-- The parameter at a position as it is, null if absent. -/
def rawParam (notification : Notification) (index : Nat) : Json.Value :=
  notification.arguments[index]?.getD .null

end Notification

namespace PortalRequest

/-- The parameters of a portlet call: none, the items of an array, or any other
value as the only one. -/
def callParams : Json.Value → List Json.Value
  | .null => []
  | .array params => params
  | single => [single]

def addResourcesOf (notification : Notification) : Except WireError PortalRequest := do
  let stylesheets ←
    notification.optionalParam (Json.Decode.list Json.Decode.string) 0
  let style ← notification.optionalParam Json.Decode.string 1
  let scripts ← notification.optionalParam (Json.Decode.list ScriptResource.decode) 2
  .ok (.addResources
    { stylesheets := stylesheets.getD [], style, scripts := scripts.getD [] })

def callPortletOf (notification : Notification) : Except WireError PortalRequest := do
  let portletClass ← notification.requiredParam Json.Decode.string 0
  let portlet ← notification.requiredParam Json.Decode.string 1
  let method ← notification.requiredParam Json.Decode.string 2
  .ok (.callPortlet
    { portletClass, portlet := ⟨portlet⟩, method,
      params := callParams (notification.rawParam 3) })

/-- What a notification asks of the page. -/
def ofNotification (notification : Notification) : Except WireError PortalRequest :=
  if notification.method = Method.reload then .ok .reload
  else if notification.method = Method.addPageResources then addResourcesOf notification
  else if notification.method = Method.lastPortalLayout then
    .ok (.restoreLayout
      { preview := notification.rawParam 0, tabs := notification.rawParam 1 })
  else if notification.method = Method.invokePortletMethod then callPortletOf notification
  else .ok (.other notification)

end PortalRequest

end PageSession
