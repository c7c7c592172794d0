/-
# PathTemplate.Text — text as a list of characters.

Templates, paths, patterns and names are all lists of Unicode scalar values here, so that every function on
them is a plain recursion that a proof can follow. `String` occurs only where a constant is written down and
in the programs that call the library.
-/

namespace PathTemplate

/-- Text is a list of Unicode scalar values. -/
abbrev Text := List Char

namespace Text

/-- The number of bytes of the UTF-8 form. -/
def utf8Size : Text → Nat
  | [] => 0
  | c :: rest => c.utf8Size + utf8Size rest

@[simp] theorem utf8Size_append (s t : Text) : utf8Size (s ++ t) = utf8Size s + utf8Size t := by
  induction s with
  | nil => simp [utf8Size]
  | cons c rest ih => simp [utf8Size, ih, Nat.add_assoc]

/-- May the character begin an identifier? Letters here are the ASCII ones. -/
def startsIdentifier (c : Char) : Bool := c.isAlpha || c == '_'

/-- May the character stand in an identifier after its first character? -/
def continuesIdentifier (c : Char) : Bool := c.isAlphanum || c == '_'

/-- An identifier is an ASCII letter or underscore, then ASCII letters, digits and underscores. -/
def isIdentifier : Text → Bool
  | [] => false
  | c :: rest => startsIdentifier c && rest.all continuesIdentifier

/-! ## Digits -/

/-- Is the character a hexadecimal digit? -/
def isHexDigit (c : Char) : Bool := c.isDigit || ('a' ≤ c && c ≤ 'f') || ('A' ≤ c && c ≤ 'F')

/-- The value of a hexadecimal digit. -/
def hexValue (c : Char) : Nat :=
  if c.isDigit then c.toNat - '0'.toNat
  else if c.isLower then c.toNat - 'a'.toNat + 10
  else c.toNat - 'A'.toNat + 10

/-- The number that hexadecimal digits write. -/
def hexNumber (digits : Text) : Nat := digits.foldl (fun n c => 16 * n + hexValue c) 0

/-- The number that decimal digits write. -/
def decimalNumber (digits : Text) : Nat := digits.foldl (fun n c => 10 * n + (c.toNat - '0'.toNat)) 0

end Text

end PathTemplate
