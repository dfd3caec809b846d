import TeachingEditor.Text
import TeachingEditor.Text.CodePointRanges

/-!
# Blank characters

The characters with the property White_Space, and the removal of such characters
from both ends of a text.
-/

namespace TeachingEditor
namespace Text

/-- The ranges of the property White_Space. -/
def blankRanges : CodePointRanges :=
  [
    (0x9, 0xD), (0x20, 0x20), (0x85, 0x85), (0xA0, 0xA0), (0x1680, 0x1680), (0x2000, 0x200A),
    (0x2028, 0x2029), (0x202F, 0x202F), (0x205F, 0x205F), (0x3000, 0x3000)
  ]

/-- Whether a character is white space. -/
def isBlank (c : Char) : Bool :=
  blankRanges.covers c.toNat

/-- Take the blanks off both ends. -/
def trim (t : Text) : Text :=
  ((t.dropWhile isBlank).reverse.dropWhile isBlank).reverse

end Text
end TeachingEditor
