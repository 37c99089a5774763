import PageSession.Url.Encode

/-!
# Web addresses

A URL has a scheme, for most schemes an authority with the host, a path, and
perhaps a query and a fragment.  Its parts are kept in their encoded form, so
that the text of a URL is put together from them as they are.
-/

namespace PageSession

/-- Why a text is no URL. -/
inductive UrlError where
  | emptyHost
  /-- The host is no name that a domain can have. -/
  | domainName
  | port
  | address4
  | address6
  /-- The host of a scheme without domains has a character that no host has. -/
  | hostCharacter
  | noBase
  /-- The base has a path that nothing can be relative to. -/
  | plainBase
deriving DecidableEq, Repr

namespace UrlError

def message : UrlError → String
  | .emptyHost => "empty host"
  | .domainName => "invalid international domain name"
  | .port => "invalid port number"
  | .address4 => "invalid IPv4 address"
  | .address6 => "invalid IPv6 address"
  | .hostCharacter => "invalid domain character"
  | .noBase => "relative URL without a base"
  | .plainBase => "relative URL with a cannot-be-a-base base"

end UrlError

/-- The host and what belongs to it. -/
structure Authority where
  user : String := ""
  password : String := ""
  host : String
  /-- The port, unless it is the one that the scheme implies. -/
  port : Option Nat := none
deriving DecidableEq, Repr

/-- The path of a URL. -/
inductive UrlPath where
  /-- A text without structure. -/
  | plain (text : String)
  /-- Segments, each behind a slash. -/
  | segments (names : List String)
deriving DecidableEq, Repr

/-- A URL in its parts. -/
structure Url where
  scheme : String
  authority : Option Authority := none
  path : UrlPath
  query : Option String := none
  fragment : Option String := none
deriving DecidableEq, Repr

namespace Url

/-- The schemes whose URLs always have an authority, with the port that each
implies. -/
def specialPorts : List (String × Option Nat) :=
  [("http", some 80), ("https", some 443), ("ws", some 80), ("wss", some 443),
    ("ftp", some 21), ("file", none)]

/-- The port that a scheme implies. -/
def defaultPort? (scheme : String) : Option Nat :=
  ((specialPorts.find? (·.1 == scheme)).map (·.2)).getD none

def isSpecialScheme (scheme : String) : Bool :=
  specialPorts.any (·.1 == scheme)

/-- Whether the URL names a host. -/
def hasHost (url : Url) : Bool :=
  match url.authority with
  | some authority => authority.host ≠ ""
  | none => false

end Url

/-! ## The text of a URL -/

/-- The authority with its two slashes. -/
def Authority.text (authority : Authority) : String :=
  let password := if authority.password = "" then "" else ":" ++ authority.password
  let credentials :=
    if authority.user = "" && authority.password = "" then ""
    else authority.user ++ password ++ "@"
  let port :=
    match authority.port with
    | some port => ":" ++ Text.decimal port
    | none => ""
  "//" ++ credentials ++ authority.host ++ port

def UrlPath.text : UrlPath → String
  | .plain text => text
  | .segments names => String.join (names.map ("/" ++ ·))

/-- A path that begins with an empty segment would be taken for an authority,
so that without an authority a dot is put before it. -/
def UrlPath.guard : UrlPath → String
  | .segments ("" :: _ :: _) => "/."
  | _ => ""

/-- A part behind its mark, if it is there. -/
def Url.marked (mark : String) (part : Option String) : String :=
  match part with
  | some text => mark ++ text
  | none => ""

def Url.text (url : Url) : String :=
  let authority :=
    match url.authority with
    | some authority => authority.text
    | none => url.path.guard
  url.scheme ++ ":" ++ authority ++ url.path.text ++ marked "?" url.query
    ++ marked "#" url.fragment

end PageSession
