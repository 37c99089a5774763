import PageSession.Link.Basic
import PageSession.Settings.Load

/-!
# What the settings say about a link
-/

namespace PageSession

/-- The plan of the link of a session. -/
def Settings.plan (settings : Settings) (session : SessionId) : LinkPlan where
  endpoint := endpoint settings.connection.baseUrl session.text
  session := session
  reconnectDelay := settings.connection.reconnectDelay
  keepAliveInterval := settings.connection.keepAliveInterval
  maxInactivity := limit settings.connection.maxInactivity

end PageSession
