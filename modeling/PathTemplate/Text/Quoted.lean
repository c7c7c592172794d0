/-
# PathTemplate.Text.Quoted — text and lists of text in quotes, as messages show them.

A quoted text stands between double quotes; quotes and backslashes in it are escaped, and so is every
character that a reader could not see: those without a printed form and those that would attach to the
character before them. The form is meant for a reader; nothing here reads it back.
-/
import PathTemplate.Text
import PathTemplate.Unicode.Property

namespace PathTemplate.Text

/-- The escape by code point: lower-case hexadecimal digits without leading zeros, in braces. -/
def escapedCode (c : Char) : Text :=
  ['\\', 'u', '{'] ++ Nat.toDigits 16 c.toNat ++ ['}']

/-- One character as it stands in a quoted text. -/
def quotedChar (c : Char) : Text :=
  match c with
  | '"' => ['\\', '"']
  | '\\' => ['\\', '\\']
  | '\n' => ['\\', 'n']
  | '\r' => ['\\', 'r']
  | '\t' => ['\\', 't']
  | '\x00' => ['\\', '0']
  | c =>
    if Unicode.isGraphemeExtend c || !Unicode.isPrintable c then escapedCode c else [c]

/-- The text in double quotes. -/
def quoted (t : Text) : Text := '"' :: t.flatMap quotedChar ++ ['"']

/-- The texts in quotes, between square brackets and separated by a comma and a blank. -/
def quotedList (ts : List Text) : Text :=
  '[' :: List.intercalate [',', ' '] (ts.map quoted) ++ [']']

end PathTemplate.Text
