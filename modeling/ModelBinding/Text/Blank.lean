import ModelBinding.Text.Ranges

/-!
# Blank text

Text is blank when it holds nothing but white space. White space is the
`White_Space` property of the Unicode standard.
-/

namespace ModelBinding.Text

/-- The code points with the property `White_Space`. -/
def whiteSpaceRanges : List (Nat × Nat) :=
  [(0x9, 0xD), (0x20, 0x20), (0x85, 0x85), (0xA0, 0xA0), (0x1680, 0x1680), (0x2000, 0x200A),
    (0x2028, 0x2029), (0x202F, 0x202F), (0x205F, 0x205F), (0x3000, 0x3000)]

/-- Whether a character is white space. -/
def isWhiteSpace (c : Char) : Bool := inRanges whiteSpaceRanges c.toNat

/-- Whether text holds white space only; the empty text does. -/
def isBlank (text : String) : Bool := text.toList.all isWhiteSpace

@[simp] theorem isBlank_empty : isBlank "" = true := rfl

end ModelBinding.Text
