import StoryDirector.Text.Ranges
/-!
# StoryDirector.Text.Blank

Blank characters and trimming. **Blank means the character standard's `White_Space` property**, so
the ideographic space is blank and the zero-width space is not.
-/

namespace StoryDirector.Text

/-- The code points with the property `White_Space`. -/
def blankPoints : Ranges :=
  [(0x9, 0xD), (0x20, 0x20), (0x85, 0x85), (0xA0, 0xA0), (0x1680, 0x1680),
   (0x2000, 0x200A), (0x2028, 0x2029), (0x202F, 0x202F), (0x205F, 0x205F), (0x3000, 0x3000)]

/-- Whether the character is white space. -/
def isBlank (c : Char) : Bool :=
  blankPoints.covers c.toNat

/-- The characters without their leading blanks. -/
def trimStart (s : List Char) : List Char :=
  s.dropWhile isBlank

/-- The characters without their leading and trailing blanks. -/
def trimChars (s : List Char) : List Char :=
  (trimStart (trimStart s).reverse).reverse

/-- The text without its leading and trailing blanks. -/
def trim (s : String) : String :=
  String.ofList (trimChars s.toList)

/-- Whether nothing but blanks is in the text. -/
def isBlankText (s : String) : Bool :=
  s.toList.all isBlank

end StoryDirector.Text
