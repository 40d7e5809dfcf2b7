import QueryRights.Text.Ranges

/-!
# Blank characters

What counts as white space around an entry of a list: the 25 characters with the Unicode property
White_Space.

## What is here

* `isBlank`, and `trim`, which drops blank characters from both ends and keeps the ones between.
-/

set_option autoImplicit false

namespace QueryRights
namespace Text

/-- The code points of blank characters. -/
def blankRanges : Ranges :=
  [(0x9, 0xd), (0x20, 0x20), (0x85, 0x85), (0xa0, 0xa0), (0x1680, 0x1680), (0x2000, 0x200a),
   (0x2028, 0x2029), (0x202f, 0x202f), (0x205f, 0x205f), (0x3000, 0x3000)]

/-- Whether a character is white space. -/
def isBlank (c : Char) : Bool := blankRanges.covers c

/-- The text without the blank characters at its two ends. -/
def trim (s : List Char) : List Char :=
  ((s.dropWhile isBlank).reverse.dropWhile isBlank).reverse

/-- There are 25 blank characters. -/
example : blankRanges.count = 25 := by decide

end Text
end QueryRights
