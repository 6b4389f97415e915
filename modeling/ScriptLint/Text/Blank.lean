import ScriptLint.Text.Basic
import ScriptLint.Text.Ranges

set_option autoImplicit false

/-!
White space.

The ranges are those of the property White_Space of the character database: 25 characters, among them the
line ends and the spaces that do not break.
-/

namespace ScriptLint.Text

/-- The code points of white space. -/
def blankRanges : List (Nat × Nat) :=
  [(0x9, 0xD), (0x20, 0x20), (0x85, 0x85), (0xA0, 0xA0), (0x1680, 0x1680), (0x2000, 0x200A),
   (0x2028, 0x2029), (0x202F, 0x202F), (0x205F, 0x205F), (0x3000, 0x3000)]

/-- Whether a character is white space. -/
def isBlank (c : Char) : Bool := Ranges.hold blankRanges c

/-- A text without the white space in front of it. -/
def trimLeft (s : Text) : Text := s.dropWhile isBlank

/-- A text without the white space at its end. -/
def trimRight (s : Text) : Text := (s.reverse.dropWhile isBlank).reverse

example : Ranges.areApart blankRanges = true := by decide

end ScriptLint.Text
