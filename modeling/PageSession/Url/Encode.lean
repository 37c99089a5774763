import PageSession.Text.Hexadecimal
import PageSession.Text.Unsigned

/-!
# Percent-encoding

In the parts of a URL some characters stand as they are, and all others as the
bytes of their UTF-8 form, each byte as a percent sign with two hexadecimal
digits.  Each part has a set of characters that are encoded in it.
-/

namespace PageSession

namespace Url

/-- Controls and everything beyond ASCII. -/
def isControl (char : Char) : Bool :=
  char.toNat < 0x20 || 0x7E < char.toNat

def encodedInFragment (char : Char) : Bool :=
  isControl char || [' ', '"', '<', '>', '\x60'].contains char

def encodedInPath (char : Char) : Bool :=
  encodedInFragment char || ['#', '?', '\x7b', '\x7d'].contains char

def encodedInUser (char : Char) : Bool :=
  encodedInPath char || ['/', ':', ';', '=', '@', '[', '\\', ']', '^', '|'].contains char

/-- What is encoded in a query; a special scheme adds the apostrophe. -/
def encodedInQuery (special : Bool) (char : Char) : Bool :=
  isControl char || [' ', '"', '#', '<', '>'].contains char || (special && char = '\'')

/-- A byte behind a percent sign. -/
def encodeByte (byte : UInt8) : List Char :=
  '%' :: (Text.hexadecimalByte byte).map Char.toUpper

/-- One character, encoded if it belongs to a set. -/
def encodeChar (encoded : Char → Bool) (char : Char) : List Char :=
  if encoded char then (String.utf8EncodeChar char).flatMap encodeByte else [char]

/-- A text with the characters of a set encoded. -/
def encode (encoded : Char → Bool) (chars : List Char) : String :=
  String.ofList (chars.flatMap (encodeChar encoded))

/-- The byte that two characters behind a percent sign stand for. -/
def encodedByte? (high low : Char) : Option UInt8 := do
  let high ← Text.hexadecimalValue? high
  let low ← Text.hexadecimalValue? low
  some (16 * high + low).toUInt8

/-- The bytes of a text whose encoded bytes are taken back. -/
def decodeBytes : List Char → List UInt8
  | [] => []
  | '%' :: high :: low :: rest =>
      match encodedByte? high low with
      | some byte => byte :: decodeBytes rest
      | none => String.utf8EncodeChar '%' ++ decodeBytes (high :: low :: rest)
  | char :: rest => String.utf8EncodeChar char ++ decodeBytes rest

end Url

end PageSession
