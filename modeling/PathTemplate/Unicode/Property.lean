/-
# PathTemplate.Unicode.Property — the character properties that names and quoted text ask for.

Each predicate is the property of the Unicode standard that its name says, or a union of such properties, in
version 17 of the standard. Nothing here depends on a language or a locale.
-/
import PathTemplate.Unicode.Alphabetic
import PathTemplate.Unicode.GraphemeExtend
import PathTemplate.Unicode.Hidden
import PathTemplate.Unicode.Number

namespace PathTemplate.Unicode

/-! ## Letters and digits -/

/-- Alphabetic: letters of all scripts, and what counts as one. -/
def isAlphabetic (c : Char) : Bool := alphabeticRanges.contains c

/-- Alphabetic, or of the general category Number. -/
def isAlphanumeric (c : Char) : Bool := isAlphabetic c || numberRanges.contains c

/-! ## Blanks -/

/-- The characters with the property White_Space. -/
def blankRanges : Ranges := [
  (0x9, 0xD), (0x20, 0x20), (0x85, 0x85), (0xA0, 0xA0), (0x1680, 0x1680), (0x2000, 0x200A), (0x2028, 0x2029),
  (0x202F, 0x202F), (0x205F, 0x205F), (0x3000, 0x3000)]

/-- White space of any kind. -/
def isBlank (c : Char) : Bool := blankRanges.contains c

/-! ## Printed form -/

/-- Does the character extend the one before it, so that alone it has no form of its own? -/
def isGraphemeExtend (c : Char) : Bool := graphemeExtendRanges.contains c

/-- Does the character leave a mark on paper? Of the separators only the plain space does. -/
def isPrintable (c : Char) : Bool := c == ' ' || !hiddenRanges.contains c

end PathTemplate.Unicode
