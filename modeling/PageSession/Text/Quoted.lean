import PageSession.Text.Hexadecimal
import PageSession.Text.Unprintable

/-!
# Quoted texts for people

The form in which messages and log lines show a text: in quotes, with quotes,
backslashes and whatever cannot be seen escaped, and letters of any script kept.
-/

namespace PageSession

namespace Text

/-- One character of a quoted text. -/
def showChar (char : Char) : List Char :=
  if char = '\x00' then ['\\', '0']
  else if char = '\t' then ['\\', 't']
  else if char = '\n' then ['\\', 'n']
  else if char = '\r' then ['\\', 'r']
  else if char = '"' then ['\\', '"']
  else if char = '\\' then ['\\', '\\']
  else if isUnprintable char then
    ['\\', 'u', '\x7b'] ++ hexadecimal char.toNat ++ ['\x7d']
  else [char]

/-- A text in quotes. -/
def shown (text : String) : String :=
  String.ofList ('"' :: (text.toList.flatMap showChar ++ ['"']))

/-- A list of texts in braces, separated by commas. -/
def shownSet (texts : List String) : String :=
  "\x7b" ++ ", ".intercalate (texts.map shown) ++ "\x7d"

end Text

end PageSession
