import PageSession.Domain.Basic
import PageSession.Url.Basic

/-!
# Hosts

The host of a special URL is an IPv6 address in brackets, an IPv4 address, or a
domain; it is brought into one form, in which domains are in ASCII.
-/

namespace PageSession

namespace Url

/-! ## IPv4 addresses -/

/-- The number that digits of a base write. -/
def numberOf? (base : Nat) (digits : List Char) : Option Nat :=
  digits.foldlM (fun value char =>
    match Text.hexadecimalValue? char with
    | some digit => if digit < base then some (base * value + digit) else none
    | none => none) 0

/-- A number of an IPv4 address: hexadecimal behind 0x, octal behind 0, or
decimal. -/
def addressNumber? : List Char → Option Nat
  | [] => none
  | '0' :: 'x' :: digits | '0' :: 'X' :: digits => numberOf? 16 digits
  | '0' :: digit :: digits => numberOf? 8 (digit :: digits)
  | digits => numberOf? 10 digits

/-- The labels of a domain; an empty one at its end does not count. -/
def labels (domain : List Char) : List (List Char) :=
  let all := Text.split '.' domain
  if 1 < all.length && all.getLast? = some [] then all.dropLast else all

/-- Whether the last label is a number, so that the host has to be an address. -/
def endsInNumber (domain : List Char) : Bool :=
  match (labels domain).getLast? with
  | none | some [] => false
  | some last => last.all Char.isDigit || (addressNumber? last).isSome

/-- The address of up to four numbers, the last of which takes all bytes that
are left. -/
def address4? (domain : List Char) : Option Nat := do
  let parts := labels domain
  if 4 < parts.length then none
  let numbers ← parts.mapM addressNumber?
  let last ← numbers.getLast?
  let leading := numbers.dropLast
  if leading.all (· < 256) && last < Nat.pow 256 (4 - leading.length) then
    some (leading.zipIdx.foldl
      (fun sum (number, place) => sum + number * Nat.pow 256 (3 - place)) last)
  else none

/-- An IPv4 address in its four bytes. -/
def showAddress4 (address : Nat) : String :=
  ".".intercalate ([3, 2, 1, 0].map fun place => Text.decimal (address / Nat.pow 256 place % 256))

/-! ## IPv6 addresses -/

/-- A group of an IPv6 address: up to four hexadecimal digits. -/
def group? (digits : List Char) : Option Nat :=
  if digits.isEmpty || 4 < digits.length then none else numberOf? 16 digits

/-- A byte of an embedded IPv4 address: decimal, without leading zeros. -/
def embeddedByte? (digits : List Char) : Option Nat :=
  let leading := 1 < digits.length && digits.head? = some '0'
  if digits.isEmpty || leading || !digits.all Char.isDigit then none
  else
    let value := Text.digitsValue digits
    if value < 256 then some value else none

/-- The two groups of an embedded IPv4 address. -/
def embedded? (chars : List Char) : Option (List Nat) := do
  let bytes ← (Text.split '.' chars).mapM embeddedByte?
  match bytes with
  | [first, second, third, fourth] => some [256 * first + second, 256 * third + fourth]
  | _ => none

/-- Groups between colons, the last of which may be an IPv4 address. -/
def groups? (chars : List Char) : Option (List Nat) :=
  if chars.isEmpty then some []
  else do
    let parts := Text.split ':' chars
    let last ← parts.getLast?
    let leading ← parts.dropLast.mapM group?
    if last.contains '.' then
      let ending ← embedded? last
      some (leading ++ ending)
    else
      let ending ← group? last
      some (leading ++ [ending])

/-- The text before and after the first double colon. -/
def splitDouble : List Char → Option (List Char × List Char)
  | [] => none
  | ':' :: ':' :: rest => some ([], rest)
  | char :: rest => (splitDouble rest).map fun (before, after) => (char :: before, after)

/-- The eight groups of an IPv6 address; a double colon stands for one or more
groups of zero. -/
def address6? (chars : List Char) : Option (List Nat) :=
  match splitDouble chars with
  | none => do
      let groups ← groups? chars
      if groups.length = 8 then some groups else none
  | some (before, after) => do
      let leading ← groups? before
      let ending ← groups? after
      let count := leading.length + ending.length
      if count < 8 && !before.contains '.' then
        some (leading ++ List.replicate (8 - count) 0 ++ ending)
      else none

/-- The longest of the runs of zeros that begin at each place. -/
def zeroRun (groups : List Nat) : Nat × Nat :=
  (List.range groups.length).foldl (fun (place, length) start =>
    let run := ((groups.drop start).takeWhile (· == 0)).length
    if length < run then (start, run) else (place, length)) (0, 0)

def showGroups (groups : List Nat) : String :=
  ":".intercalate (groups.map fun group => String.ofList (Text.hexadecimal group))

/-- An IPv6 address with its first longest run of zeros left out, if that is
longer than one group. -/
def showAddress6 (groups : List Nat) : String :=
  let (place, length) := zeroRun groups
  if length < 2 then showGroups groups
  else showGroups (groups.take place) ++ "::" ++ showGroups (groups.drop (place + length))

/-- The host in brackets, which are not given. -/
def readAddress6 (chars : List Char) : Except UrlError String :=
  match address6? chars with
  | some groups => .ok ("[" ++ showAddress6 groups ++ "]")
  | none => .error .address6

/-! ## Hosts -/

/-- Characters that a host without domains does not have. -/
def forbiddenInHost (char : Char) : Bool :=
  ['\x00', '\t', '\n', '\r', ' ', '#', '/', ':', '<', '>', '?', '@', '[', '\\', ']', '^',
    '|'].contains char

/-- A domain or IPv4 address. -/
def readDomain (chars : List Char) : Except UrlError String :=
  match String.fromUTF8? ⟨(decodeBytes chars).toArray⟩ with
  | none => .error .domainName
  | some decoded =>
      match Domain.toAscii? decoded.toList with
      | none => .error .domainName
      | some [] => .error .emptyHost
      | some domain =>
          if endsInNumber domain then
            match address4? domain with
            | some address => .ok (showAddress4 address)
            | none => .error .address4
          else .ok (String.ofList domain)

/-- The inside of brackets around a text that begins with one. -/
def bracketed? (chars : List Char) : Option (Except UrlError (List Char)) :=
  match chars with
  | '[' :: rest =>
      if rest.getLast? = some ']' then some (.ok rest.dropLast) else some (.error .address6)
  | _ => none

/-- The host of a URL with a scheme. -/
def readHost (special : Bool) (chars : List Char) : Except UrlError String :=
  match bracketed? chars with
  | some inside => inside >>= readAddress6
  | none =>
      if special then readDomain chars
      else if chars.any forbiddenInHost then .error .hostCharacter
      else .ok (encode isControl chars)

end Url

end PageSession
