/-
# PathTemplate.Token — a parameter token: a name, perhaps a type, and the text it was written as.

The text between the bounds of a token is cut at the separator. More than one separator is a fault, an empty
name is a fault, and an empty type is no type. The name may be any text without a separator; whether it is an
identifier matters only where a pattern has to name a group after it.
-/
import PathTemplate.Text

namespace PathTemplate

/-- A parameter token. -/
structure Token where
  name : Text
  typeName : Option Text
  raw : Text
deriving DecidableEq, Repr

/-- What can be wrong with the content of a token. -/
inductive TokenFault
  | repeatedSeparator
  | emptyName
deriving DecidableEq, Repr

/-- The fault as messages describe it. -/
def TokenFault.description : TokenFault → Text
  | repeatedSeparator => "separator appears more than once".toList
  | emptyName => "parameter name is empty".toList

namespace Token

/-- Read a token from its content, the text between its bounds. A repeated separator is reported before an
empty name. -/
def ofContent? (separator : Char) (raw content : Text) : Except TokenFault Token :=
  let name := content.takeWhile (· != separator)
  let typeName := (content.dropWhile (· != separator)).drop 1
  if typeName.contains separator then .error .repeatedSeparator
  else if name.isEmpty then .error .emptyName
  else .ok ⟨name, if typeName.isEmpty then none else some typeName, raw⟩

/-- Can the token's name label a group of a pattern? -/
def isIdentifier (token : Token) : Bool := token.name.isIdentifier

end Token

end PathTemplate
