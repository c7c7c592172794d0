/-
# PathTemplate.Regex.Match — finding a match.

Of the matches in a text the one that begins first is taken, and of those with the same beginning the preferred
one: earlier alternatives and more turns of a greedy loop come first. What is kept of a match are the marks of
its named groups, the latest first.
-/
import PathTemplate.Regex.Assembly
import PathTemplate.Regex.Search

namespace PathTemplate.Regex

/-! ## Matches -/

/-- The marks of the match that is taken, if there is a match. -/
def find? (r : Regex) (text : Text) : Option (List Mark) :=
  let chars := text.toArray
  let plan := r.plan 0
  search chars (.replicate (r.points * (chars.size + 1)) false)
    ((List.range (chars.size + 1)).map fun place => ⟨[.go plan], place, []⟩)

/-- Is there a match anywhere in the text? -/
def isMatch (r : Regex) (text : Text) : Bool := (r.find? text).isSome

/-- The place where the match entered the group for the last time. -/
def lastEntered? (marks : List Mark) (name : Text) : Option Nat :=
  marks.findSome? fun
    | .entered n i => if n = name then some i else none
    | .left .. => none

/-- The place where the match left the group for the last time. -/
def lastLeft? (marks : List Mark) (name : Text) : Option Nat :=
  marks.findSome? fun
    | .left n i => if n = name then some i else none
    | .entered .. => none

/-- The text of a named group, as the match went through it for the last time. -/
def groupText? (text : Text) (marks : List Mark) (name : Text) : Option Text := do
  let start ← lastEntered? marks name
  let stop ← lastLeft? marks name
  return (text.drop start).take (stop - start)

end PathTemplate.Regex
