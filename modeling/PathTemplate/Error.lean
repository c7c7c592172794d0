/-
# PathTemplate.Error — why an operation on templates can fail.

Each constructor is a cause with the data that describe it. Codes and messages are functions of the cause, so
no text is ever inspected to find out what went wrong. The causes that come from the inside of a pattern or of
a settings document carry no description: the message then ends where the description would begin.
-/
import PathTemplate.Grammar
import PathTemplate.Text.Quoted
import PathTemplate.Token

namespace PathTemplate

/-- The causes of failure. -/
inductive Error
  /-- A parameter token has a faulty content. -/
  | invalidParameter (token : Text) (fault : TokenFault)
  /-- A parameter names a type that the catalog does not hold. -/
  | unknownType (name : Text)
  /-- A path was asked for, but bound characters were left over. -/
  | irreversible (template : Text) (unresolved : List Text)
  /-- Two roles of a grammar were given the same character. -/
  | invalidGrammar (clash : Clash)
  /-- The fragment of a type is not a valid pattern. -/
  | invalidTypePattern (name : Text)
  /-- A compiled pattern is not a valid pattern. -/
  | invalidPattern
  /-- A settings document has a wrong form. -/
  | invalidSettings
deriving DecidableEq, Repr

namespace Error

/-- A short code that stays the same when messages change. -/
def code : Error → Text
  | invalidParameter .. => "RSROUTE_INVALID_PARAMETER".toList
  | unknownType _ => "RSROUTE_UNKNOWN_TYPE".toList
  | irreversible .. => "RSROUTE_IRREVERSIBLE".toList
  | invalidGrammar _ => "RSROUTE_INVALID_GRAMMAR".toList
  | invalidTypePattern _ => "RSROUTE_INVALID_TYPE_PATTERN".toList
  | invalidPattern => "RSROUTE_INVALID_PATTERN".toList
  | invalidSettings => "RSROUTE_INVALID_CONFIG".toList

/-- The message for a reader. Names stand in it as they are; only the unresolved names are quoted. -/
def message : Error → Text
  | invalidParameter token fault =>
    "invalid parameter ".toList ++ token ++ ": ".toList ++ fault.description
  | unknownType name => "unknown parameter type '".toList ++ name ++ ['\'']
  | irreversible template unresolved =>
    "route '".toList ++ template ++ "' is irreversible (unresolved parameters: ".toList ++
      Text.quotedList unresolved ++ [')']
  | invalidGrammar clash => "invalid grammar: ".toList ++ clash.description
  | invalidTypePattern name => "invalid pattern for type '".toList ++ name ++ "': ".toList
  | invalidPattern => "invalid compiled pattern: ".toList
  | invalidSettings => "invalid configuration: ".toList

end Error

end PathTemplate
