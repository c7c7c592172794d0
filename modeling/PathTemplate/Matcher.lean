/-
# PathTemplate.Matcher — matching paths and reading off the values of parameters.

A matcher is a pattern made ready for use. It keeps nothing of the compiler or the template the pattern came
from. A path matches if the anchored pattern does; the values are the texts of the parameters' groups, and a
parameter in an optional segment that took no part has none.

An engine may also refuse a valid pattern because what it compiles to would be too large. Which patterns those are
is a matter of the engine, so it is a parameter: `ofPatternWithin?` makes a matcher if the engine has room for the
expression, and `ofPattern?` is the case of an engine that sets no limit.
-/
import PathTemplate.Error
import PathTemplate.Pattern
import PathTemplate.Regex.Match

namespace PathTemplate

/-- A pattern ready for use. -/
structure Matcher where
  regex : Regex
  parameterNames : List Text

namespace Matcher

/-- The matcher of a pattern, which has to be valid when anchored and whose expression the engine has to admit. -/
def ofPatternWithin? [Regex.PropertyTable] (admits : Regex → Bool) (p : Pattern) : Except Error Matcher :=
  match Regex.parse? p.anchored with
  | some regex => if admits regex then .ok ⟨regex, p.parameterNames⟩ else .error .invalidPattern
  | none => .error .invalidPattern

/-- The matcher of a pattern, which has to be valid when anchored. No limit is set to its size. -/
def ofPattern? [Regex.PropertyTable] (p : Pattern) : Except Error Matcher := ofPatternWithin? (fun _ => true) p

/-- Does the path match? -/
def isMatch (m : Matcher) (path : Text) : Bool := m.regex.isMatch path

/-- The values of the parameters that took part in the match, if the path matches. -/
def values? (m : Matcher) (path : Text) : Option (List (Text × Text)) :=
  (m.regex.find? path).map fun marks =>
    m.parameterNames.filterMap fun name =>
      (Regex.groupText? path marks name).map fun value => (name, value)

end Matcher

end PathTemplate
