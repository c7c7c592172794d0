/-
# PathTemplate.Regex.Basic — regular expressions.

The expressions that patterns denote. Of the groups of a pattern the named ones remain, because their texts are
kept, and the numbered ones, because two groups are never the same; groups that only hold something together
leave no trace. Nor do the flags of a pattern: a set already knows whether case matters, and an anchor whether
it looks at lines.
-/
import PathTemplate.Regex.Anchor

namespace PathTemplate

/-- A regular expression. -/
inductive Regex
  /-- Nothing at all. -/
  | empty
  /-- The characters of a text, one after another. -/
  | literal (text : Text)
  /-- One character of a set. -/
  | set (s : Regex.CharSet)
  /-- A condition on the place. -/
  | anchor (a : Regex.Anchor)
  | seq (first second : Regex)
  /-- One of two expressions; the first is preferred. -/
  | alt (first second : Regex)
  /-- An expression `least` times and then, if `most` allows, further times; many are preferred if greedy. -/
  | repeated (body : Regex) (least : Nat) (most : Option Nat) (greedy : Bool)
  /-- An expression that has a number in its pattern. -/
  | numbered (number : Nat) (body : Regex)
  /-- An expression whose text is kept under a name. -/
  | named (name : Text) (body : Regex)
deriving DecidableEq

namespace Regex

/-- The expressions one after another. -/
def seqAll : List Regex → Regex
  | [] => empty
  | [r] => r
  | r :: rest => seq r (seqAll rest)

/-- One of the expressions, the earlier ones preferred. -/
def altAll : List Regex → Regex
  | [] => empty
  | [r] => r
  | r :: rest => alt r (altAll rest)

end Regex

end PathTemplate
