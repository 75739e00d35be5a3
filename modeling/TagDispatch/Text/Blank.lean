import TagDispatch.Text.Ranges

/-!
# Blanks

Spaces, line ends and direction marks, which only stand between words.
-/

namespace TagDispatch.Text

/-- The code points that are blanks. -/
def blankRanges : Ranges :=
  [(0x9, 0xD), (0x20, 0x20), (0x85, 0x85), (0xA0, 0xA0), (0x1680, 0x1680), (0x2000, 0x200A),
   (0x200E, 0x200F), (0x2028, 0x2029), (0x202F, 0x202F), (0x205F, 0x205F), (0x3000, 0x3000)]

/-- Whether a character is a blank. -/
def isBlank (c : Char) : Bool := blankRanges.contains c

end TagDispatch.Text
