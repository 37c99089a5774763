import PageSession.Url.Uri

/-!
# Addresses of endpoints

An attempt to connect begins with a look at the address of the endpoint, which
has to be an absolute URI of a scheme whose port is known.  An address that is
not fails the attempt before anything is sent.
-/

namespace PageSession

/-- What is wrong with the address of an endpoint. -/
inductive EndpointError where
  | uri (error : UriError)
  | noHost
  /-- The scheme implies no port, and none is given. -/
  | scheme
deriving DecidableEq, Repr

namespace EndpointError

def message : EndpointError → String
  | .uri error => "HTTP format error: " ++ error.message
  | .noHost => "URL error: No host name in the URL"
  | .scheme => "URL error: URL scheme not supported"

end EndpointError

namespace Endpoint

/-- Whether the port to connect to is known. -/
def portKnown (scheme : Option (List Char)) (authority : List Char) : Bool :=
  (Uri.statedPort? authority).isSome || scheme = some ['w', 's'] || scheme = some ['w', 's', 's']

/-- Check the address of an endpoint. -/
def check (address : String) : Except EndpointError Unit :=
  match Uri.read address with
  | .error error => .error (.uri error)
  | .ok uri =>
      match uri.authority with
      | none => .error .noHost
      | some authority => if portKnown uri.scheme authority then .ok () else .error .scheme

end Endpoint

end PageSession
