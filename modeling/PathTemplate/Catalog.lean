/-
# PathTemplate.Catalog — the parameter types that templates may name.

A catalog gives each type name a fragment of a pattern. A fragment enters a catalog only if it is a valid
pattern by itself. Whether it also behaves well inside a larger pattern is not checked here. How large a fragment
may be once it is compiled is a limit of the engine, and no such limit is set here.
-/
import PathTemplate.Error
import PathTemplate.Regex.Assembly
import PathTemplate.TypeTable

namespace PathTemplate

/-- Fragments of patterns by type name. -/
structure Catalog where
  table : TypeTable
deriving DecidableEq

namespace Catalog

/-- The types that every catalog begins with unless it begins empty. -/
def builtinEntries : List (Text × Text) :=
  [("word".toList, "\\w+".toList), ("alpha".toList, "[a-zA-Z]+".toList), ("digits".toList, "\\d+".toList),
   ("number".toList, "\\d*\\.?\\d+".toList), ("chunk".toList, "[^/.]+".toList),
   ("segment".toList, "[^/]+".toList), ("any".toList, ".+".toList)]

/-- The built-in type of a parameter that names none. -/
def defaultType : Text := "chunk".toList

/-- The catalog of the built-in types. -/
def builtin : Catalog := ⟨.ofList builtinEntries⟩

/-- The catalog without any type. -/
def empty : Catalog := ⟨.empty⟩

/-- The catalog with one type more; it replaces one of the same name. Its fragment has to be a valid
pattern. -/
def withType? [Regex.PropertyTable] (catalog : Catalog) (name fragment : Text) : Except Error Catalog :=
  if Regex.isValid fragment then .ok ⟨catalog.table.insert name fragment⟩
  else .error (.invalidTypePattern name)

/-- The fragment of a type. -/
def fragment? (catalog : Catalog) (name : Text) : Except Error Text :=
  match catalog.table.get? name with
  | some fragment => .ok fragment
  | none => .error (.unknownType name)

/-- Does the catalog hold the type? -/
def contains (catalog : Catalog) (name : Text) : Bool := catalog.table.contains name

end Catalog

end PathTemplate
