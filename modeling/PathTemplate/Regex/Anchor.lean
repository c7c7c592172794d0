/-
# PathTemplate.Regex.Anchor — conditions on the place between two characters.

An anchor takes no text. It holds or fails at a place, and all it sees are the character before and the
character after that place; at the ends of the text one of them is missing.
-/
import PathTemplate.Regex.CharSet

namespace PathTemplate.Regex

/-- The conditions that have to do with words. -/
inductive WordEdge
  | boundary
  | notBoundary
  | start
  | finish
  | startHalf
  | finishHalf
deriving DecidableEq, Repr

/-- A condition on a place in a text. -/
inductive Anchor
  | textStart
  | textEnd
  /-- A line begins; `crlf` says whether lines end at carriage returns too. -/
  | lineStart (crlf : Bool)
  /-- A line ends. -/
  | lineEnd (crlf : Bool)
  /-- A word begins, ends or does neither; `unicode` says which characters make up words. -/
  | word (edge : WordEdge) (unicode : Bool)
deriving DecidableEq, Repr

/-- Does the condition on words hold, given whether there is a word character before and after? -/
def WordEdge.holds (before after : Bool) : WordEdge → Bool
  | boundary => before != after
  | notBoundary => before == after
  | start => !before && after
  | finish => before && !after
  | startHalf => !before
  | finishHalf => !after

/-- Does the condition hold between the two characters? -/
def Anchor.holds (before after : Option Char) : Anchor → Bool
  | textStart => before.isNone
  | textEnd => after.isNone
  | lineStart false => before.all (· == '\n')
  | lineStart true => before.all fun c => c == '\n' || (c == '\r' && after != some '\n')
  | lineEnd false => after.all (· == '\n')
  | lineEnd true => after.all fun c => c == '\r' || (c == '\n' && before != some '\r')
  | word edge unicode =>
    let word := CharSet.ofShorthand unicode .word
    edge.holds (before.any word.contains) (after.any word.contains)

end PathTemplate.Regex
