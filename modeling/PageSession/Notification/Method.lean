/-!
# Method names

The names that both sides of a session give to their notifications.
-/

namespace PageSession

namespace Method

/-! Sent by the page. -/

def portalReady : String := "portalReady"
def keepAlive : String := "keepAlive"
def disconnect : String := "disconnect"
def renderPortlet : String := "renderPortlet"
def setTheme : String := "setTheme"
def setLocale : String := "setLocale"
def sendToPortlet : String := "sendToPortlet"
def addPortlet : String := "addPortlet"
def deletePortlet : String := "deletePortlet"
def portalLayout : String := "portalLayout"

/-! Sent by the portal. -/

def reload : String := "reload"
def addPageResources : String := "addPageResources"
def lastPortalLayout : String := "lastPortalLayout"
def invokePortletMethod : String := "invokePortletMethod"

end Method

end PageSession
