import ResumableFlow.Text.Ranges

/-!
# Blank characters

The characters with the white space property of Unicode, and the removal of blanks around a text.
-/

namespace ResumableFlow
namespace Text

/-- The characters with the white space property: tab to carriage return, the space, the next-line
control, and the spaces and separators of the other blocks. -/
def blankRanges : CodeRanges :=
  [(0x9, 0xd), (0x20, 0x20), (0x85, 0x85), (0xa0, 0xa0), (0x1680, 0x1680), (0x2000, 0x200a),
   (0x2028, 0x2029), (0x202f, 0x202f), (0x205f, 0x205f), (0x3000, 0x3000)]

def isBlank (c : Char) : Bool := blankRanges.holds c

def trimEnd (text : List Char) : List Char := (text.reverse.dropWhile isBlank).reverse

def trim (text : List Char) : List Char := trimEnd (text.dropWhile isBlank)

end Text
end ResumableFlow
