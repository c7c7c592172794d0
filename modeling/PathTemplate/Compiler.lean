/-
# PathTemplate.Compiler — from templates to matching patterns.

Literal text is escaped, a parameter becomes a group that is named after it and holds the fragment of its type,
and an optional segment becomes a group that may be left out. A parameter whose name cannot name a group is
matched as it is written, and its type is not looked up.
-/
import PathTemplate.Catalog
import PathTemplate.Pattern
import PathTemplate.Template

namespace PathTemplate

/-- A grammar to read templates with, and the types of their parameters. -/
structure Compiler where
  grammar : Grammar
  catalog : Catalog
  /-- The type of a parameter that names none. -/
  defaultType : Text
deriving DecidableEq

namespace Compiler

/-- The compiler whose default type is the built-in one. The catalog need not hold that type. -/
def ofCatalog (grammar : Grammar) (catalog : Catalog) : Compiler := ⟨grammar, catalog, Catalog.defaultType⟩

/-- The standard grammar and the built-in types. -/
def standard : Compiler := ofCatalog .standard .builtin

/-- The compiler with another default type, which the catalog has to hold. -/
def withDefaultType? (compiler : Compiler) (name : Text) : Except Error Compiler := do
  let _ ← compiler.catalog.fragment? name
  return { compiler with defaultType := name }

/-- The fragment for a parameter. -/
def fragment? (compiler : Compiler) (token : Token) : Except Error Text :=
  compiler.catalog.fragment? (token.typeName.getD compiler.defaultType)

/-- The pattern of a sequence. The first unknown type in document order is reported. -/
def pattern? (compiler : Compiler) : Sequence → Except Error Pattern
  | .nil => .ok .empty
  | .literal t rest => do
    return (← compiler.pattern? rest).attach (Pattern.escape t)
  | .parameter token rest =>
    if token.isIdentifier then do
      let fragment ← compiler.fragment? token
      return (← compiler.pattern? rest).attachGroup token.name fragment
    else do
      return (← compiler.pattern? rest).attach (Pattern.escape token.raw)
  | .optional body rest => do
    let inner ← compiler.pattern? body
    return Pattern.attachOptional inner (← compiler.pattern? rest)

/-- The pattern of a template that has been read, with whatever grammar. -/
def compileTemplate (compiler : Compiler) (template : Template) : Except Error Pattern :=
  compiler.pattern? template.segments

/-- The pattern of a template. -/
def compile (compiler : Compiler) (source : Text) : Except Error Pattern := do
  compiler.compileTemplate (← Template.parse? compiler.grammar source)

end Compiler

end PathTemplate
