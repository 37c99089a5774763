import PageSession.Domain.Direction
import PageSession.Domain.Joining
import PageSession.Domain.Mapping
import PageSession.Domain.Punycode
import PageSession.Text.Mark

/-!
# Domains

A domain consists of labels between dots.  Labels may be in any script; in ASCII
they are written with a mark at their beginning.  The ASCII form of a domain is
the one by which it is known.
-/

namespace PageSession

namespace Domain

/-- What a label in ASCII begins with if it stands for one that is not. -/
def asciiMark : List Char := ['x', 'n', '-', '-']

/-- The greatest length of what is read behind that mark. -/
def greatestWritten : Nat := 2000

/-- The greatest length of a label that is not in ASCII. -/
def greatestLabel : Nat := 1000

/-- Characters that no domain has. -/
def isForbidden (char : Char) : Bool :=
  char.toNat ≤ 0x20 || char = '\x7f'
    || ['#', '/', ':', '<', '>', '?', '@', '[', '\\', ']', '^', '|', '%'].contains char

def isAscii (label : List Char) : Bool :=
  label.all Punycode.isBasic

/-- The label that a text behind the mark stands for.  It would be written in the
same way. -/
def readWritten? (written : List Char) : Option (List Char) := do
  if written.getLast?.getD '-' = '-' || greatestWritten < written.length then none
  let label ← Punycode.decode? written
  if label.all isSettled && Text.compose label = label && !label.contains '.' then some label
  else none

/-- Whether a label is well formed. -/
def isLabel (label : List Char) : Bool :=
  !label.any isForbidden
    && !(label.head?.map Text.isMark).getD false
    && joinersFit [] label
    && (isAscii label || label.length ≤ greatestLabel)

/-- The label that is meant by one whose characters are replaced. -/
def readLabel? (label : List Char) : Option (List Char) := do
  let meant ← if asciiMark.isPrefixOf label then
      (if isAscii label then readWritten? (label.drop asciiMark.length) else none)
    else some label
  if isLabel meant then some meant else none

/-- A label in ASCII. -/
def writeLabel (label : List Char) : List Char :=
  if isAscii label then label else asciiMark ++ Punycode.encode label

/-- The ASCII form of a domain, if it is one. -/
def toAscii? (domain : List Char) : Option (List Char) := do
  let replaced ← replaceAll? domain
  let labels ← (Text.split '.' (Text.compose replaced)).mapM readLabel?
  if isReadable labels then some (['.'].intercalate (labels.map writeLabel)) else none

end Domain

end PageSession
