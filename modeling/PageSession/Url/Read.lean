import PageSession.Url.Host

/-!
# Reading URLs

A text is read as a URL by itself or relative to a base.  Blanks and controls
around it do not count, nor do tabs and line ends inside of it.
-/

namespace PageSession

namespace Url

/-- Controls and the space. -/
def isMargin (char : Char) : Bool :=
  char.toNat ≤ 0x20

/-- The characters of a text that count. -/
def significant (text : String) : List Char :=
  let trimmed := ((text.toList.dropWhile isMargin).reverse.dropWhile isMargin).reverse
  trimmed.filter fun char => !(char = '\t' || char = '\n' || char = '\r')

def isSchemeChar (char : Char) : Bool :=
  char.isAlphanum || char = '+' || char = '-' || char = '.'

/-- The scheme in lower case and what follows its colon. -/
def splitScheme? (chars : List Char) : Option (String × List Char) :=
  match chars.head?, chars.dropWhile isSchemeChar with
  | some first, ':' :: rest =>
      if first.isAlpha then
        some ((String.ofList (chars.takeWhile isSchemeChar)).toLower, rest)
      else none
  | _, _ => none

/-- A slash, or for special schemes a backslash. -/
def isSlash (special : Bool) (char : Char) : Bool :=
  char = '/' || (special && char = '\\')

/-- Where the authority or the host of a URL ends. -/
def endsAuthority (special : Bool) (char : Char) : Bool :=
  isSlash special char || char = '?' || char = '#'

/-! ## Path, query and fragment -/

def isSingleDot (segment : List Char) : Bool :=
  [".", "%2e"].contains (String.ofList segment).toLower

def isDoubleDot (segment : List Char) : Bool :=
  ["..", ".%2e", "%2e.", "%2e%2e"].contains (String.ofList segment).toLower

/-- Whether a segment names a drive: a letter with a colon or a bar. -/
def isDrive (segment : List Char) : Bool :=
  match segment with
  | [letter, mark] => letter.isAlpha && (mark = ':' || mark = '|')
  | _ => false

/-- The segments without the last of them, which stays if it names a drive. -/
def shorten (names : List String) : List String :=
  match names.getLast? with
  | some last => if isDrive last.toList then names else names.dropLast
  | none => []

/-- The name of a segment behind others.  A drive at the beginning of the path of a
file is named with a colon. -/
def segmentName (file : Bool) (names : List String) (segment : List Char) : String :=
  if file && names.isEmpty && isDrive segment then String.ofList (segment.take 1) ++ ":"
  else encode encodedInPath segment

/-- The segments of a path, given behind those that it begins with. -/
def addSegments (file : Bool) (names : List String) : List (List Char) → List String
  | [] => names
  | [last] =>
      if isDoubleDot last then shorten names ++ [""]
      else if isSingleDot last then names ++ [""]
      else names ++ [segmentName file names last]
  | segment :: rest =>
      if isDoubleDot segment then addSegments file (shorten names) rest
      else if isSingleDot segment then addSegments file names rest
      else addSegments file (names ++ [segmentName file names segment]) rest

/-- The segments of a path behind its first slash. -/
def readSegments (special file : Bool) (names : List String) (chars : List Char) : List String :=
  addSegments file names
    (Text.split '/' (chars.map fun char => if isSlash special char then '/' else char))

/-- What stands before the query or fragment, and the rest. -/
def splitPath (chars : List Char) : List Char × List Char :=
  chars.span fun char => !(char = '?' || char = '#')

/-- The fragment, given with its mark. -/
def readFragment : List Char → Option String
  | '#' :: rest => some (encode encodedInFragment rest)
  | _ => none

/-- The query, given with its mark and what follows. -/
def readQuery (special : Bool) : List Char → Option String
  | '?' :: rest => some (encode (encodedInQuery special) (rest.takeWhile (· != '#')))
  | _ => none

/-- Add the query and the fragment. -/
def finish (special : Bool) (url : Url) (rest : List Char) : Url :=
  { url with
    query := readQuery special rest
    fragment := readFragment (rest.dropWhile (· != '#')) }

/-- A path without the slash that it may begin with. -/
def dropSlash (special : Bool) (path : List Char) : List Char :=
  match path with
  | first :: rest => if isSlash special first then rest else path
  | [] => []

/-- Read the path behind an authority.  Special URLs have a path always. -/
def readPath (special : Bool) (url : Url) (chars : List Char) : Url :=
  let (before, rest) := splitPath chars
  let names :=
    if before.isEmpty && !special then []
    else readSegments special false [] (dropSlash special before)
  finish special { url with path := .segments names } rest

/-! ## Authority -/

/-- The text before and after the last mark of its kind. -/
def splitLast (mark : Char) (chars : List Char) : Option (List Char × List Char) :=
  if chars.contains mark then
    let after := (chars.reverse.takeWhile (· != mark)).reverse
    some (chars.take (chars.length - after.length - 1), after)
  else none

/-- The host and what stands behind its colon; colons between brackets are part
of the host. -/
def splitPort (inside : Bool) : List Char → List Char × Option (List Char)
  | [] => ([], none)
  | char :: rest =>
      if char = ':' && !inside then ([], some rest)
      else
        let (host, port) := splitPort (if char = '[' then true else inside && char != ']') rest
        (char :: host, port)

/-- The greatest port. -/
def greatestPort : Nat := 65535

/-- A port, which is left out if the scheme implies it, and what stands behind it.
A backslash ends it even where that is no slash. -/
def readPort (scheme : String) (chars : List Char) : Except UrlError (Option Nat × List Char) :=
  let digits := chars.takeWhile Char.isDigit
  let behind := chars.drop digits.length
  if !(behind.isEmpty || behind.head? = some '\\') then .error .port
  else
    let port := Text.digitsValue digits
    if greatestPort < port then .error .port
    else if digits.isEmpty || defaultPort? scheme = some port then .ok (none, behind)
    else .ok (some port, behind)

/-- User and password. -/
def readCredentials (chars : List Char) : String × String :=
  let (user, password) := chars.span (· != ':')
  (encode encodedInUser user, encode encodedInUser (password.drop 1))

/-- The host and port of an authority, and what stands behind them. -/
def readHostAndPort (scheme : String) (authority : Authority) (chars : List Char) :
    Except UrlError (Authority × List Char) := do
  let special := isSpecialScheme scheme
  let (hostText, portText) := splitPort false chars
  if special && hostText.isEmpty then throw .emptyHost
  let host ← readHost special hostText
  if host = "" && portText.isSome then throw .emptyHost
  let (port, behind) ← readPort scheme (portText.getD [])
  .ok ({ authority with host, port }, behind)

/-- An authority, given with the path, and what stands behind it. -/
def readAuthority (scheme : String) (chars rest : List Char) :
    Except UrlError (Authority × List Char) :=
  match splitLast '@' chars with
  | none => readHostAndPort scheme { host := "" } chars
  | some (credentials, hostAndPort) => do
      if credentials.isEmpty && hostAndPort.isEmpty && !rest.isEmpty then throw .emptyHost
      let (user, password) := readCredentials credentials
      let (authority, behind) ← readHostAndPort scheme { user, password, host := "" } hostAndPort
      if authority.host = "" && !(user = "" && password = "") then throw .emptyHost
      .ok (authority, behind)

/-- What stands behind the two slashes after a scheme. -/
def readAfterSlashes (scheme : String) (chars : List Char) : Except UrlError Url := do
  let special := isSpecialScheme scheme
  let (before, rest) := chars.span fun char => !endsAuthority special char
  let (authority, behind) ← readAuthority scheme before rest
  .ok (readPath special { scheme, authority := some authority, path := .segments [] }
    (behind ++ rest))

/-! ## Files -/

/-- The host of a file; the machine itself has none. -/
def readFileHost (chars : List Char) : Except UrlError String :=
  if chars.isEmpty then .ok ""
  else do
    let host ← readHost true chars
    .ok (if host = "localhost" then "" else host)

/-- The path of a file has no empty segments at its beginning. -/
def dropEmpty : List String → List String
  | "" :: next :: rest => dropEmpty (next :: rest)
  | names => names

/-- Read the path of a file.  One that begins with a drive is on the machine
itself. -/
def readFilePath (host : String) (chars : List Char) : Url :=
  let (before, rest) := splitPath chars
  let names := readSegments true true [] (dropSlash true before)
  let host :=
    match names with
    | first :: _ => if isDrive first.toList then "" else host
    | [] => host
  finish true
    { scheme := "file", authority := some { host }, path := .segments (dropEmpty names) } rest

/-- What stands behind the scheme of a file.  A drive is no host. -/
def readFile (chars : List Char) : Except UrlError Url :=
  match chars with
  | first :: second :: behind =>
      if isSlash true first && isSlash true second then
        let (before, rest) := behind.span fun char => !endsAuthority true char
        if isDrive before then .ok (readFilePath "" behind)
        else do
          let host ← readFileHost before
          .ok (readFilePath host rest)
      else .ok (readFilePath "" chars)
  | _ => .ok (readFilePath "" chars)

/-! ## Whole URLs -/

/-- What stands behind a scheme that implies no authority. -/
def readPlain (scheme : String) (chars : List Char) : Except UrlError Url :=
  match chars with
  | '/' :: '/' :: rest => readAfterSlashes scheme rest
  | '/' :: _ => .ok (readPath false { scheme, path := .segments [] } chars)
  | _ =>
      let (before, rest) := splitPath chars
      .ok (finish false { scheme, path := .plain (encode isControl before) } rest)

/-- A reference without a scheme.  Behind two slashes a host is expected at once,
but where one of them is a backslash, more slashes are passed over. -/
def readRelative (base : Url) (chars : List Char) : Except UrlError Url :=
  let special := isSpecialScheme base.scheme
  match base.path, chars with
  | .plain _, '#' :: _ => .ok { base with fragment := readFragment chars }
  | .plain _, _ => .error .plainBase
  | .segments names, chars =>
      let slashes := chars.takeWhile (isSlash special)
      if 2 ≤ slashes.length then
        match chars with
        | '/' :: '/' :: behind => readAfterSlashes base.scheme behind
        | _ => readAfterSlashes base.scheme (chars.drop slashes.length)
      else
        match chars with
        | [] => .ok { base with fragment := none }
        | '#' :: _ => .ok { base with fragment := readFragment chars }
        | '?' :: _ => .ok (finish special base chars)
        | first :: behind =>
            let (before, rest) := splitPath (if isSlash special first then behind else chars)
            let start := if isSlash special first then [] else names.dropLast
            let names := readSegments special false start before
            .ok (finish special { base with path := .segments names } rest)

/-- What stands behind the scheme of a special URL.  With fewer than two slashes
it is relative to a base of the same scheme. -/
def readSpecial (base : Option Url) (scheme : String) (chars : List Char) : Except UrlError Url :=
  let slashes := chars.takeWhile (isSlash true)
  match base with
  | some base =>
      if slashes.length < 2 && base.scheme = scheme then readRelative base chars
      else readAfterSlashes scheme (chars.drop slashes.length)
  | none => readAfterSlashes scheme (chars.drop slashes.length)

/-- Read a text, relative to a base if one is given. -/
def read (base : Option Url) (text : String) : Except UrlError Url :=
  let chars := significant text
  match splitScheme? chars, base with
  | some (scheme, rest), base =>
      if scheme = "file" then readFile rest
      else if isSpecialScheme scheme then readSpecial base scheme rest
      else readPlain scheme rest
  | none, some base => readRelative base chars
  | none, none => .error .noBase

end Url

end PageSession
