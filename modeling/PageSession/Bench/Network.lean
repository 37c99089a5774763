import PageSession.Bench.Actions
import PageSession.Link.Endpoint
import PageSession.Link.Plan

/-!
# A client without a network

A client whose attempts to connect all fail: for the address of the endpoint, if
that is unusable, and else for want of a network.
-/

namespace PageSession

namespace Bench

/-- Why attempts to connect to an address fail. -/
def attemptFailure (address : String) : String :=
  match Endpoint.check address with
  | .error error => error.message
  | .ok () => "IO error: no network"

/-- A client of a plan that cannot be connected. -/
def isolated (plan : LinkPlan) (host : ScriptHost) : Bench :=
  { client := Client.startStandard plan host
    answerer := .failing (attemptFailure plan.endpoint) }

end Bench

end PageSession
