import QueryRights.Text.Ranges

/-!
# Characters that leave no trace

Some characters are drawn as nothing at all where a font does not know them (the property
Default_Ignorable_Code_Point of Unicode 17).  Most are format characters or marks; the fillers of
Hangul syllables are letters, and still nobody sees them.
-/

set_option autoImplicit false

namespace QueryRights
namespace Text

/-- The code points of characters that leave no trace. -/
def ignorableRanges : Ranges :=
  [(0xad, 0xad), (0x34f, 0x34f), (0x61c, 0x61c), (0x115f, 0x1160), (0x17b4, 0x17b5),
   (0x180b, 0x180f), (0x200b, 0x200f), (0x202a, 0x202e), (0x2060, 0x206f), (0x3164, 0x3164),
   (0xfe00, 0xfe0f), (0xfeff, 0xfeff), (0xffa0, 0xffa0), (0xfff0, 0xfff8), (0x1bca0, 0x1bca3),
   (0x1d173, 0x1d17a), (0xe0000, 0xe0fff)]

/-- Whether a character leaves no trace. -/
def isIgnorable (c : Char) : Bool := ignorableRanges.covers c

/-- There are 4174 of them. -/
example : ignorableRanges.count = 4174 := by decide

end Text
end QueryRights
