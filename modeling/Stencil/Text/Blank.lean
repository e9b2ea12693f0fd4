import Stencil.Text.Ranges

/-!
# Blank text

A text is blank when all its characters are white space in the sense of the
property White_Space; settings that must say something refuse blank texts.
-/

namespace Stencil.Text

/-- The characters with the property White_Space. -/
def blankRanges : List (Nat × Nat) := [
  (0x0009, 0x000D), (0x0020, 0x0020), (0x0085, 0x0085), (0x00A0, 0x00A0), (0x1680, 0x1680),
  (0x2000, 0x200A), (0x2028, 0x2029), (0x202F, 0x202F), (0x205F, 0x205F), (0x3000, 0x3000)]

/-- Whether every character of a text is white space. -/
def isBlank (text : String) : Bool :=
  text.toList.all (inRanges blankRanges)

end Stencil.Text
