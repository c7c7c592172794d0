/-
# PathTemplate.Json.Quoted — strings as JSON writes them.

Writing escapes the double quote, the backslash and the controls below the blank, the common ones by a letter
and the others by their code in four lower-case digits; everything else stands as it is. Reading is strict:
controls have to be escaped, and a code from the surrogate range has to come as a pair that makes up one
character.
-/
import PathTemplate.Reader

namespace PathTemplate.Json

/-! ## Writing -/

/-- A number below sixteen as a lower-case digit. -/
def hexDigit (n : Nat) : Char := Nat.digitChar n

/-- One character as it stands in a string. -/
def quotedChar (c : Char) : Text :=
  match c with
  | '"' => ['\\', '"']
  | '\\' => ['\\', '\\']
  | '\x08' => ['\\', 'b']
  | '\x0C' => ['\\', 'f']
  | '\n' => ['\\', 'n']
  | '\r' => ['\\', 'r']
  | '\t' => ['\\', 't']
  | c =>
    if c.toNat < 0x20 then ['\\', 'u', '0', '0', hexDigit (c.toNat / 16), hexDigit (c.toNat % 16)]
    else [c]

/-- The text as a string. -/
def quoted (t : Text) : Text := '"' :: t.flatMap quotedChar ++ ['"']

/-! ## Reading -/

open PathTemplate.Reader

/-- Four hexadecimal digits. -/
def codeUnit : Reader Nat := do
  let digits := [← next, ← next, ← next, ← next]
  guard (digits.all Text.isHexDigit)
  return Text.hexNumber digits

/-- The character of an escape by code, after its first letter. -/
def codedChar : Reader Char := do
  let first ← codeUnit
  if 0xD800 ≤ first ∧ first < 0xDC00 then
    expect '\\'
    expect 'u'
    let second ← codeUnit
    guard (0xDC00 ≤ second ∧ second < 0xE000)
    return Char.ofNat (0x10000 + (first - 0xD800) * 0x400 + (second - 0xDC00))
  else
    guard (first < 0xDC00 ∨ 0xE000 ≤ first)
    return Char.ofNat first

/-- The character of an escape, after the backslash. -/
def escapedChar : Reader Char := do
  match ← next with
  | '"' => return '"'
  | '\\' => return '\\'
  | '/' => return '/'
  | 'b' => return '\x08'
  | 'f' => return '\x0C'
  | 'n' => return '\n'
  | 'r' => return '\r'
  | 't' => return '\t'
  | 'u' => codedChar
  | _ => failure

/-- A character of a string, of which `c` has been taken. -/
def stringChar (c : Char) : Reader Char :=
  if c = '\\' then escapedChar
  else do
    guard (0x20 ≤ c.toNat)
    return c

/-- The rest of a string after its opening quote, up to the closing one. -/
def stringRest (t : Text) : Option (Text × Remainder t) :=
  match t with
  | [] => none
  | c :: rest =>
    if c = '"' then some ([], .tail c rest)
    else
      match stringChar c rest with
      | none => none
      | some (d, rest') =>
        match stringRest rest'.val with
        | none => none
        | some (ds, rest'') => some (d :: ds, (Remainder.tail c rest).within (rest'.within rest''))
termination_by t.length
decreasing_by
  have := rest'.property
  rw [List.length_cons]
  omega

/-- Blanks between the parts of a document. -/
def isBlank (c : Char) : Bool := c == ' ' || c == '\t' || c == '\n' || c == '\r'

/-- Skip blanks. -/
def blanks : Reader Unit := do
  let _ ← run isBlank

/-- A string, perhaps after blanks. -/
def string : Reader Text := do
  blanks
  expect '"'
  stringRest

/-- A sign, perhaps after blanks. -/
def sign (c : Char) : Reader Unit := do
  blanks
  expect c

/-- Items separated by commas, at least one, up to the closing bracket. -/
def items (item : Reader α) (closing : Char) (t : Text) : Option (List α × Remainder t) :=
  match item t with
  | none => none
  | some (a, rest) =>
    match h : rest.val.dropWhile isBlank with
    | [] => none
    | c :: rest' =>
      if c = closing then some ([a], rest.within (.afterRun h))
      else if c = ',' then
        match items item closing rest' with
        | none => none
        | some (as, rest'') => some (a :: as, (rest.within (.afterRun h)).within rest'')
      else none
termination_by t.length
decreasing_by
  have := rest.property
  have := Remainder.length_lt_of_dropWhile h
  omega

/-- Items between brackets, separated by commas. -/
def bracketed (opening closing : Char) (item : Reader α) : Reader (List α) := do
  sign opening
  blanks
  if ← skip closing then return []
  items item closing

end PathTemplate.Json
