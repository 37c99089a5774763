import PageSession.Script.Loader
import PageSession.Url.Read
import PageSession.Url.Uri

/-!
# A page without a browser

The host of a page that shows nothing: stylesheets and inline code always
succeed, and scripts are fetched by HTTP from where the portal is.  It has no
network, so that a request which could be sent fails for that.
-/

namespace PageSession

/-- Why a page has no place to fetch scripts from. -/
inductive OriginError where
  | url (error : UrlError)
  /-- The address of the portal has no counterpart in HTTP. -/
  | scheme (address : String)
deriving DecidableEq, Repr

def OriginError.message : OriginError → String
  | .url error => error.message
  | .scheme address => "cannot derive an HTTP origin from " ++ address

/-- The host of a page. -/
structure PageHost where
  /-- What the addresses of scripts are relative to. -/
  base : Url
deriving DecidableEq, Repr

namespace PageHost

/-- The scheme by which scripts are fetched from a portal. -/
def originScheme (scheme : String) : String :=
  if scheme = "wss" then "https" else "http"

/-- The URL with another scheme, which may imply its port. -/
def withScheme (scheme : String) (url : Url) : Url :=
  { url with
    scheme
    authority := url.authority.map fun authority =>
      if authority.port = Url.defaultPort? scheme then { authority with port := none }
      else authority }

/-- The host for the page of a portal. -/
def ofAddress (address : String) : Except OriginError PageHost :=
  match Url.read none address with
  | .error error => .error (.url error)
  | .ok url =>
      if Url.isSpecialScheme url.scheme && url.hasHost then
        .ok { base := { withScheme (originScheme url.scheme) url with path := .segments [""] } }
      else .error (.scheme address)

/-- The text whose bytes an encoded part of a URL stands for, if they are one. -/
def decoded? (part : String) : Option String :=
  String.fromUTF8? ⟨(Url.decodeBytes part.toList).toArray⟩

/-- Whether user and password are sent apart from the address.  They stay in it if
the user is no text. -/
def sendsCredentials (authority : Authority) : Bool :=
  match decoded? authority.user with
  | none => false
  | some user =>
      user != "" || (authority.password != "" && (decoded? authority.password).isSome)

/-- The address of a request. -/
def requestAddress (url : Url) : Url :=
  { url with
    authority := url.authority.map fun authority =>
      if sendsCredentials authority then { authority with user := "", password := "" }
      else authority }

/-- Whether a request can be built for an address. -/
def isRequestable (url : Url) : Bool :=
  (url.scheme = "http" || url.scheme = "https")
    && match Uri.read url.text with
      | .ok _ => true
      | .error _ => false

/-- Why a request cannot be sent. -/
def requestFailure (url : Url) : String :=
  let address := requestAddress url
  let cause := if isRequestable address then "error sending request" else "builder error"
  "request failed: " ++ cause ++ " for url (" ++ address.text ++ ")"

/-- Fetch the script at a URI. -/
def load (host : PageHost) (uri : String) : Except ScriptError Unit :=
  match Url.read (some host.base) uri with
  | .error error => .error (.load uri error.message)
  | .ok url => .error (.load uri (requestFailure url))

/-- Inline scripts run without effect. -/
def scripts : ScriptHost where
  execute _ _ := .ok ()

end PageHost

end PageSession
