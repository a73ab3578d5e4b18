import MessageSelector.Text.Ranges

/-! Blanks: the characters that separate words and that trimming removes. -/

namespace MessageSelector

/-- The code points with the Unicode property White_Space. -/
def blankRanges : CodeRanges :=
  -- The ASCII controls and space come first, then the Latin and the general blank characters.
  [(0x9, 0xD), (0x20, 0x20), (0x85, 0x85), (0xA0, 0xA0), (0x1680, 0x1680), (0x2000, 0x200A),
   (0x2028, 0x2029), (0x202F, 0x202F), (0x205F, 0x205F), (0x3000, 0x3000)]

/-- A space, tab, line end or other character with the property White_Space. -/
def isBlank (c : Char) : Bool :=
  blankRanges.has c

/-- The text from its first character that is not a blank. -/
def skipBlanks (text : List Char) : List Char :=
  text.dropWhile isBlank

/-- The text between its first and its last character that is not a blank. -/
def trimBlanks (text : List Char) : List Char :=
  -- Blanks at the end are blanks at the start of the reversed text.
  (skipBlanks (skipBlanks text).reverse).reverse

end MessageSelector
