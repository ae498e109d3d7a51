import Dialogue.Text.CodeRange
/-!
# White space

The characters with the Unicode property `White_Space`, and the removal of those around a text.
The byte order mark and the zero width space are not among them.
-/

namespace Dialogue.Text

/-- The characters with the property `White_Space`. -/
def blankRanges : CodeRanges :=
  [(0x9, 0xD), (0x20, 0x20), (0x85, 0x85), (0xA0, 0xA0), (0x1680, 0x1680), (0x2000, 0x200A),
    (0x2028, 0x2029), (0x202F, 0x202F), (0x205F, 0x205F), (0x3000, 0x3000)]

def isBlank (c : Char) : Bool :=
  blankRanges.has c

/-- A text without the white space at its front. -/
def trimFront (text : List Char) : List Char :=
  text.dropWhile isBlank

/-- A text without the white space at both ends. -/
def trim (text : List Char) : List Char :=
  (trimFront (trimFront text).reverse).reverse

end Dialogue.Text
