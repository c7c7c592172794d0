/-
# PathTemplate.Pattern — the text of a matching pattern.

A pattern is the text of a regular expression together with the names of the groups that stand for parameters.
It is written without anchors, so that it could be put into a larger one; to match whole paths it is anchored.
-/
import PathTemplate.Text

namespace PathTemplate

/-- A matching pattern, not anchored. -/
structure Pattern where
  text : Text
  /-- The parameters in the order of their groups. A name that is repeated is repeated here. -/
  parameterNames : List Text
deriving DecidableEq, Repr

namespace Pattern

/-- Does the character have a meaning of its own in patterns? -/
def isSpecial (c : Char) : Bool :=
  c ∈ ['\\', '.', '+', '*', '?', '(', ')', '|', '[', ']', '{', '}', '^', '$', '#', '&', '-', '~']

/-- The pattern that matches exactly the text: its special characters are escaped. -/
def escape (t : Text) : Text := t.flatMap fun c => if isSpecial c then ['\\', c] else [c]

/-- The pattern for whole texts. -/
def anchored (p : Pattern) : Text := '^' :: p.text ++ ['$']

/-- No text and no parameters. -/
def empty : Pattern := ⟨[], []⟩

/-- Put a text in front of the pattern. -/
def attach (t : Text) (p : Pattern) : Pattern := { p with text := t ++ p.text }

/-- Put the group of a parameter in front of the pattern. -/
def attachGroup (name fragment : Text) (p : Pattern) : Pattern where
  text := "(?P<".toList ++ name ++ '>' :: fragment ++ ')' :: p.text
  parameterNames := name :: p.parameterNames

/-- Put a pattern that may be left out in front of another one. -/
def attachOptional (body p : Pattern) : Pattern where
  text := "(?:".toList ++ body.text ++ ")?".toList ++ p.text
  parameterNames := body.parameterNames ++ p.parameterNames

end Pattern

end PathTemplate
