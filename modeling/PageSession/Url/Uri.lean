import PageSession.Text.Unsigned

/-!
# URIs

The form that an address has to have before something is sent to it.  It has
fewer characters than other forms of addresses have, and limits to its length.
-/

namespace PageSession

/-- Why a text is no URI. -/
inductive UriError where
  | length
  | schemeLength
  /-- A character that no URI has. -/
  | character
  /-- A host, port or user that no URI has. -/
  | authority
  /-- It is not of the form of a URI. -/
  | format
deriving DecidableEq, Repr

namespace UriError

def message : UriError → String
  | .length => "uri too long"
  | .schemeLength => "scheme too long"
  | .character => "invalid uri character"
  | .authority => "invalid authority"
  | .format => "invalid format"

end UriError

/-- What a URI names. -/
structure Uri where
  scheme : Option (List Char) := none
  /-- The host with its user and port. -/
  authority : Option (List Char) := none
deriving DecidableEq, Repr

namespace Uri

/-- The greatest number of bytes of a URI. -/
def greatestLength : Nat := 65534

/-- The greatest number of characters of a scheme. -/
def greatestSchemeLength : Nat := 64

def isSchemeChar (char : Char) : Bool :=
  char.isAlphanum || char = '+' || char = '-' || char = '.' || char = '~'

/-- The characters of hosts, ports and users. -/
def isAuthorityChar (char : Char) : Bool :=
  char.isAlphanum
    || ['!', '$', '&', '\'', '(', ')', '*', '+', ',', '-', '.', ':', ';', '=', '@', '[', ']',
      '_', '~'].contains char

/-- Characters that can be seen, and all beyond ASCII. -/
def isVisible (char : Char) : Bool :=
  0x20 < char.toNat && char != '\x7f'

/-- The characters of paths; what is beyond ASCII counts as one of them. -/
def isPathChar (char : Char) : Bool :=
  isVisible char && !(['#', '<', '>', '?', '\x60'].contains char)

/-- The characters of queries. -/
def isQueryChar (char : Char) : Bool :=
  isVisible char && !(['"', '#', '<', '>'].contains char)

/-- Check path and query; a fragment is not looked at. -/
def checkPath (chars : List Char) : Except UriError Unit :=
  let (path, rest) := chars.span fun char => !(char = '?' || char = '#')
  let query :=
    match rest with
    | '?' :: rest => rest.takeWhile (· != '#')
    | _ => []
  if path.all isPathChar && query.all isQueryChar then .ok () else .error .character

/-- The scheme and what follows its two slashes. -/
def splitScheme (chars : List Char) : Except UriError (Option (List Char × List Char)) :=
  let scheme := chars.takeWhile isSchemeChar
  match chars.drop scheme.length with
  | ':' :: '/' :: '/' :: rest =>
      if greatestSchemeLength < scheme.length then .error .schemeLength
      else .ok (some (scheme, rest))
  | _ => .ok none

/-- What was met of an authority. -/
structure AuthorityScan where
  /-- The colons since the last user or bracket. -/
  colons : Nat := 0
  opened : Bool := false
  closed : Bool := false
  /-- A percent sign since the last user or bracket. -/
  percent : Bool := false
  /-- The last character ends a user. -/
  afterUser : Bool := false

/-- The greatest number of colons in one part of an authority. -/
def greatestColons : Nat := 8

/-- The next character of an authority. -/
def AuthorityScan.step (scan : AuthorityScan) (char : Char) : Except UriError AuthorityScan :=
  let scan := { scan with afterUser := false }
  if char = ':' then
    if greatestColons ≤ scan.colons then .error .authority
    else .ok { scan with colons := scan.colons + 1 }
  else if char = '[' then
    if scan.percent || scan.opened then .error .authority else .ok { scan with opened := true }
  else if char = ']' then
    if !scan.opened || scan.closed then .error .authority
    else .ok { scan with closed := true, colons := 0, percent := false }
  else if char = '@' then .ok { scan with colons := 0, percent := false, afterUser := true }
  else if char = '%' then .ok { scan with percent := true }
  else if isAuthorityChar char then .ok scan
  else .error .character

/-- Whether the authority may end here. -/
def AuthorityScan.complete (scan : AuthorityScan) : Bool :=
  scan.opened == scan.closed && scan.colons ≤ 1 && !scan.afterUser && !scan.percent

def checkAuthority (chars : List Char) : Except UriError Unit := do
  let scan ← chars.foldlM AuthorityScan.step {}
  if scan.complete then .ok () else .error .authority

/-- Read a URI that does not begin with a slash. -/
def readAbsolute (chars : List Char) : Except UriError Uri := do
  let scheme ← splitScheme chars
  let behind := (scheme.map (·.2)).getD chars
  let (authority, rest) := behind.span fun char => !(char = '/' || char = '?' || char = '#')
  checkAuthority authority
  match scheme with
  | none => if rest.isEmpty then .ok { authority := some authority } else .error .format
  | some (name, _) =>
      if authority.isEmpty then throw .format
      checkPath rest
      .ok { scheme := some name, authority := some authority }

/-- Read a URI. -/
def read (text : String) : Except UriError Uri :=
  if greatestLength < text.utf8ByteSize then .error .length
  else
    match text.toList with
    | '/' :: rest => (checkPath ('/' :: rest)).map fun _ => {}
    | chars => readAbsolute chars

/-- The port behind the last colon, if it is one. -/
def statedPort? (authority : List Char) : Option Nat :=
  if authority.contains ':' then
    let digits := (authority.reverse.takeWhile (· != ':')).reverse
    match Text.unsigned? (String.ofList digits) with
    | some port => if port ≤ 65535 then some port else none
    | none => none
  else none

end Uri

end PageSession
