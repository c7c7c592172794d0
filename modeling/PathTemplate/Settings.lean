/-
# PathTemplate.Settings — a description of a grammar, types and a default type.

Settings say what characters a grammar has, which types are added to the built-in ones, and which type a
parameter has that names none. They may be inconsistent: that is found out when something is built from them.
A compiler needs all of them to be in order. Going back from templates to paths needs only the grammar.
-/
import PathTemplate.Compiler

namespace PathTemplate

/-- A description of a compiler. -/
structure Settings where
  delimiters : Delimiters
  defaultType : Text
  types : TypeTable
deriving DecidableEq

namespace Settings

/-- The standard grammar, no types of one's own, and the built-in default type. -/
def standard : Settings := ⟨Grammar.standard.toDelimiters, Catalog.defaultType, .empty⟩

/-- The grammar of the settings. -/
def grammar (s : Settings) : Except Error Grammar := (Grammar.ofDelimiters? s.delimiters).mapError .invalidGrammar

/-- The built-in types and those of the settings, which are added in order of their names. -/
def catalog [Regex.PropertyTable] (s : Settings) : Except Error Catalog :=
  s.types.entries.foldlM (fun catalog (name, fragment) => catalog.withType? name fragment) .builtin

/-- The compiler of the settings. The grammar is looked at first, then the types, then the default type. -/
def compiler [Regex.PropertyTable] (s : Settings) : Except Error Compiler := do
  let grammar ← s.grammar
  let catalog ← s.catalog
  (Compiler.ofCatalog grammar catalog).withDefaultType? s.defaultType

end Settings

end PathTemplate
