import PageSession.Json.Decode
import PageSession.Notification.Basic
import PageSession.Notification.Method

/-!
# Notifications that the page sends

One definition for each message to the portal, with its parameters in order.
-/

namespace PageSession

/-- The name of a session. -/
structure SessionId where
  text : String
deriving DecidableEq, Repr

/-- The name of one portlet on the page. -/
structure PortletId where
  text : String
deriving DecidableEq, Repr

/-- How a portlet is shown. -/
inductive RenderMode where
  | preview
  | view
deriving DecidableEq, Repr

namespace RenderMode

def name : RenderMode → String
  | .preview => "Preview"
  | .view => "View"

def ofName? (name : String) : Option RenderMode :=
  if name = "Preview" then some .preview
  else if name = "View" then some .view
  else none

def ofName (name : String) : Json.Decoded RenderMode :=
  match ofName? name with
  | some mode => .ok mode
  | none => .error (.unknownVariant name "`Preview` or `View`")

/-- A mode is given by its name, or by an object with the name as only key and
null under it. -/
def decode (value : Json.Value) : Json.Decoded RenderMode :=
  match value with
  | .string name => ofName name
  | .object [(name, content)] => do
      let mode ← ofName name
      match content with
      | .null => .ok mode
      | other => .error (.invalidType other "unit")
  | .object members => .error (.invalidValue (.object members) "map with a single key")
  | other => .error (.invalidType other "string or map")

end RenderMode

namespace Notification

/-- The page is set up. -/
def portalReady : Notification :=
  bare Method.portalReady

/-- The page is still there. -/
def keepAlive : Notification :=
  bare Method.keepAlive

/-- The session is closed on purpose. -/
def disconnect (session : SessionId) : Notification :=
  carrying Method.disconnect [.string session.text]

def renderPortlet (portlet : PortletId) (mode : RenderMode) : Notification :=
  carrying Method.renderPortlet [.string portlet.text, .string mode.name]

def setTheme (theme : String) : Notification :=
  carrying Method.setTheme [.string theme]

def setLocale (locale : String) : Notification :=
  carrying Method.setLocale [.string locale]

/-- A call to the portal's side of a portlet.  Without an argument the third
parameter is left out. -/
def sendToPortlet (portlet : PortletId) (method : String) (argument : Option Json.Value) :
    Notification :=
  carrying Method.sendToPortlet
    ([.string portlet.text, .string method] ++ argument.toList)

def addPortlet (type : String) (mode : RenderMode) : Notification :=
  carrying Method.addPortlet [.string type, .string mode.name]

def deletePortlet (portlet : PortletId) : Notification :=
  carrying Method.deletePortlet [.string portlet.text]

/-- The arrangement of the page's portlets. -/
def portalLayout (preview tabs : Json.Value) : Notification :=
  carrying Method.portalLayout [preview, tabs]

end Notification

end PageSession
