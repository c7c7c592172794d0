/-
# PathTemplate.Settings.Document — settings written as JSON documents.

A document is an object whose fields are named after the settings, or an array that lists the settings in the
order of the fields. A field or a tail of the array may be left out and then has its standard value. Everything
else is refused: other fields, a field twice, values of another form, text after the document. Since strings,
arrays and objects are all that settings are made of, no other value of JSON is ever read.

Writing gives all fields in order, without blanks.
-/
import PathTemplate.Json.Quoted
import PathTemplate.Settings

namespace PathTemplate

/-- One setting. -/
inductive Setting
  | optionBounds (b : Brackets)
  | parameterBounds (b : Brackets)
  | separator (c : Char)
  | defaultType (name : Text)
  | types (table : TypeTable)
deriving DecidableEq

namespace Setting

/-- The fields of a document. -/
inductive Field
  | optionBounds
  | parameterBounds
  | separator
  | defaultType
  | types
deriving DecidableEq, Repr

namespace Field

/-- The fields in the order in which documents list them. -/
def all : List Field := [optionBounds, parameterBounds, separator, defaultType, types]

/-- The name of a field in documents. -/
def name : Field → Text
  | optionBounds => "option_bounds".toList
  | parameterBounds => "param_bounds".toList
  | separator => "param_separator".toList
  | defaultType => "default_type".toList
  | types => "types".toList

end Field

/-- The field that a setting belongs to. -/
def field : Setting → Field
  | optionBounds _ => .optionBounds
  | parameterBounds _ => .parameterBounds
  | separator _ => .separator
  | defaultType _ => .defaultType
  | types _ => .types

/-- The settings with one of them changed. -/
def apply (s : Settings) : Setting → Settings
  | optionBounds b => { s with delimiters := { s.delimiters with option := b } }
  | parameterBounds b => { s with delimiters := { s.delimiters with parameter := b } }
  | separator c => { s with delimiters := { s.delimiters with separator := c } }
  | defaultType name => { s with defaultType := name }
  | types table => { s with types := table }

end Setting

namespace Settings

/-! ## Writing -/

/-- The texts separated by commas. -/
def commaSeparated (ts : List Text) : Text := List.intercalate [','] ts

/-- A pair of characters as an array. -/
def writeBrackets (b : Brackets) : Text :=
  '[' :: commaSeparated [Json.quoted [b.opening], Json.quoted [b.closing]] ++ [']']

/-- A field of an object. -/
def writeField (name value : Text) : Text := Json.quoted name ++ ':' :: value

/-- A table as an object. -/
def writeTable (table : TypeTable) : Text :=
  '{' :: commaSeparated (table.entries.map fun (name, fragment) => writeField name (Json.quoted fragment)) ++
    ['}']

/-- The value of a field. -/
def writeValue (s : Settings) : Setting.Field → Text
  | .optionBounds => writeBrackets s.delimiters.option
  | .parameterBounds => writeBrackets s.delimiters.parameter
  | .separator => Json.quoted [s.delimiters.separator]
  | .defaultType => Json.quoted s.defaultType
  | .types => writeTable s.types

/-- The settings as a document. -/
def toDocument (s : Settings) : Text :=
  '{' :: commaSeparated (Setting.Field.all.map fun f => writeField f.name (s.writeValue f)) ++ ['}']

/-! ## Reading -/

open PathTemplate.Reader PathTemplate.Json

/-- A string of one character. -/
def readCharacter : Reader Char := do
  match ← string with
  | [c] => return c
  | _ => failure

/-- An array of two characters. -/
def readBrackets : Reader Brackets := do
  sign '['
  let opening ← readCharacter
  sign ','
  let closing ← readCharacter
  sign ']'
  return ⟨opening, closing⟩

/-- A name and a fragment. -/
def readEntry : Reader (Text × Text) := do
  let name ← string
  sign ':'
  return (name, ← string)

/-- An object of fragments by name; of entries with one name the last counts. -/
def readTable : Reader TypeTable := do
  return .ofList (← bracketed '{' '}' readEntry)

/-- The value of a field. -/
def readValue : Setting.Field → Reader Setting
  | .optionBounds => return .optionBounds (← readBrackets)
  | .parameterBounds => return .parameterBounds (← readBrackets)
  | .separator => return .separator (← readCharacter)
  | .defaultType => return .defaultType (← string)
  | .types => return .types (← readTable)

/-- A field with its value. -/
def readField : Reader Setting := do
  let name ← string
  sign ':'
  readValue (← ofOption (Setting.Field.all.find? (·.name == name)))

/-- The values of fields in their order, as many as there are, after the opening bracket. -/
def readValues : List Setting.Field → Reader (List Setting)
  | [] => failure
  | field :: rest => do
    let setting ← readValue field
    blanks
    if ← skip ',' then return setting :: (← readValues rest)
    expect ']'
    return [setting]

/-- The settings that a document lists. -/
def readDocument : Reader (List Setting) := do
  blanks
  if (← peek) = some '{' then
    let settings ← bracketed '{' '}' readField
    guard (settings.map Setting.field).Nodup
    return settings
  else
    sign '['
    blanks
    if ← skip ']' then return []
    readValues Setting.Field.all

/-- The settings of a document. -/
def ofDocument? (document : Text) : Except Error Settings :=
  match readDocument document with
  | some (settings, ⟨rest, _⟩) =>
    if rest.all isBlank then .ok (settings.foldl Setting.apply standard) else .error .invalidSettings
  | none => .error .invalidSettings

end Settings

end PathTemplate
