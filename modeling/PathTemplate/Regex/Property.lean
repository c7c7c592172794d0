/-
# PathTemplate.Regex.Property — sets of characters under the names of properties.

A pattern may name a property of characters, such as a general category or a script. Which names there are, and
which characters have the property, is not laid down by patterns: it is looked up in a table, and the table is a
parameter of all that reads patterns. Whatever is proved about patterns holds of every table.
-/
import PathTemplate.Regex.CharSet

namespace PathTemplate.Regex

/-- A table of properties. The name is all that a pattern writes to choose the property: a letter, a word, or the
name of a property with a value of it. -/
class PropertyTable where
  /-- The characters with the property of the given name, if there is one. -/
  find? : Text → Option CharSet

end PathTemplate.Regex
