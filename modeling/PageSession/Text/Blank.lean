/-!
# Blank characters

The white space of the Unicode standard, and texts that hold nothing else.
-/

namespace PageSession

namespace Text

/-- The characters of the property `White_Space`. -/
def isBlank (char : Char) : Bool :=
  let code := char.toNat
  (9 ≤ code && code ≤ 13) || code == 0x20 || code == 0x85 || code == 0xA0
    || code == 0x1680 || (0x2000 ≤ code && code ≤ 0x200A) || code == 0x2028
    || code == 0x2029 || code == 0x202F || code == 0x205F || code == 0x3000

/-- Whether a text is empty once its white space is gone. -/
def blank (text : String) : Bool :=
  text.toList.all isBlank

/-- A text without the white space at its ends. -/
def trim (chars : List Char) : List Char :=
  ((chars.dropWhile isBlank).reverse.dropWhile isBlank).reverse

end Text

end PageSession
