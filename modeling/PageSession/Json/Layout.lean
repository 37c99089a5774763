import PageSession.Json.Writer

/-!
# JSON text in lines

Every item and every member stands on a line of its own, two blanks further in than
what it is in; nothing stands between the marks of an empty array or object.
-/

namespace PageSession

namespace Json

/-- The end of a line, and the blanks that begin the next one. -/
def lineBreak (depth : Nat) : List Char :=
  '\n' :: List.replicate (2 * depth) ' '

/-- What stands between the last part of an array or object and its closing mark. -/
def lastBreak (depth : Nat) (empty : Bool) : List Char :=
  if empty then [] else lineBreak depth

/-- The comma behind a part, unless it is the last one. -/
def commaBefore (last : Bool) : List Char :=
  if last then [] else [',']

mutual

/-- The characters of a value in lines, its own lines beginning at a depth. -/
def Value.linedChars (depth : Nat) : Value → List Char
  | .array items => '[' :: (itemsLined (depth + 1) items ++ lastBreak depth items.isEmpty ++ [']'])
  | .object members =>
      '\x7b' :: (membersLined (depth + 1) members ++ lastBreak depth members.isEmpty ++ ['\x7d'])
  | plain => plain.chars

def itemsLined (depth : Nat) : List Value → List Char
  | [] => []
  | item :: rest =>
      lineBreak depth ++ item.linedChars depth ++ commaBefore rest.isEmpty ++ itemsLined depth rest

def membersLined (depth : Nat) : List (String × Value) → List Char
  | [] => []
  | (key, value) :: rest =>
      lineBreak depth ++ quotedChars key ++ [':', ' '] ++ value.linedChars depth
        ++ commaBefore rest.isEmpty ++ membersLined depth rest

end

/-- The text of a value in lines. -/
def Value.linedText (value : Value) : String :=
  String.ofList (value.linedChars 0)

end Json

end PageSession
