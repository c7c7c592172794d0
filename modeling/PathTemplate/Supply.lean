/-
# PathTemplate.Supply — the values that are at hand for the parameters of a template.

A supply answers each name with a value or with nothing. Where it comes from does not matter to any function
of the library; a list of pairs is one source, and in it the first pair of a name counts.
-/
import PathTemplate.Text

namespace PathTemplate

/-- Values by name. -/
abbrev Supply := Text → Option Text

namespace Supply

/-- The supply of a list of pairs, of which the first with the name asked for counts. -/
def ofPairs (pairs : List (Text × Text)) : Supply := fun name => pairs.lookup name

/-- Is there a value for the name? -/
def supplies (values : Supply) (name : Text) : Bool := (values name).isSome

end Supply

end PathTemplate
