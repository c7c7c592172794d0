/-
# PathTemplate.Reverse — from a template and values back to a path.

An optional segment is kept if, once the segments inside it are settled and its tokens are filled, no bound
character is left in it; otherwise the whole segment is dropped. The decision is made on text: a token is
looked for only after the segments around it have been settled, so that a token may enclose a segment, and
`/x/{a[b]}` asks for the value of `ab`. A value is put in where its token stood and is not read again inside
the same sequence.

Two results come out of the same decisions. A reversed path has the kept segments filled in; a pruned template
has them with their tokens left in place.
-/
import PathTemplate.Supply
import PathTemplate.Template

namespace PathTemplate

namespace Grammar

/-! ## Filling tokens -/

/-- The text that a piece becomes: the value of a well-formed token whose name is supplied, and otherwise the
piece as it stands. -/
def fillPiece (g : Grammar) (values : Supply) : Piece → Text
  | .text t => t
  | .token content =>
    match g.token? content with
    | .ok token => (values token.name).getD ((Piece.token content).raw g.parameter)
    | .error _ => (Piece.token content).raw g.parameter

/-- Replace every well-formed token whose name is supplied by its value. Values are not read again. -/
def substitute (g : Grammar) (values : Supply) (t : Text) : Text :=
  (g.parameter.pieces t).flatMap (g.fillPiece values)

/-- Is the text free of bound characters, as a path has to be? -/
def isReversed (g : Grammar) (t : Text) : Bool := !g.containsBound t

/-- The names of the well-formed tokens in the text that are not supplied, each once. -/
def unresolvedNames (g : Grammar) (values : Supply) (t : Text) : List Text :=
  ((g.parameter.pieces t).filterMap fun
    | .text _ => none
    | .token content =>
      match g.token? content with
      | .ok token => if values.supplies token.name then none else some token.name
      | .error _ => none).eraseDups

end Grammar

/-! ## Settling the optional segments -/

/-- The text of a sequence whose optional segments have been settled. -/
structure Settled where
  /-- Kept segments stand filled; the tokens of the sequence itself are not filled yet. -/
  filled : Text
  /-- Kept segments stand with their tokens in place. -/
  pruned : Text
deriving DecidableEq, Repr

namespace Settled

/-- No text at all. -/
def empty : Settled := ⟨[], []⟩

/-- Put a text in front of both forms. -/
def attach (t : Text) (s : Settled) : Settled := ⟨t ++ s.filled, t ++ s.pruned⟩

end Settled

namespace Sequence

/-- Settle the optional segments of a sequence, innermost first. -/
def settle (g : Grammar) (values : Supply) : Sequence → Settled
  | nil => .empty
  | literal t rest => (rest.settle g values).attach t
  | parameter token rest => (rest.settle g values).attach token.raw
  | optional body rest =>
    let inner := body.settle g values
    let outer := rest.settle g values
    let filled := g.substitute values inner.filled
    if g.isReversed filled then ⟨filled ++ outer.filled, inner.pruned ++ outer.pruned⟩ else outer

end Sequence

namespace Grammar

/-- The path of a template that has been read, perhaps with another grammar: bounds and tokens are those of
`g`. It fails if a bound character is left. -/
def reverseTemplate (g : Grammar) (template : Template) (values : Supply) : Except Error Text :=
  let settled := template.segments.settle g values
  let path := g.substitute values settled.filled
  if g.isReversed path then .ok path
  else .error (.irreversible template.source (g.unresolvedNames values settled.filled))

/-- The path of a template. -/
def reverse (g : Grammar) (source : Text) (values : Supply) : Except Error Text := do
  g.reverseTemplate (← Template.parse? g source) values

/-- Drop the optional segments that cannot be filled and take away the bounds of the others. -/
def prune (g : Grammar) (source : Text) (values : Supply) : Except Error Text := do
  return ((← Template.parse? g source).segments.settle g values).pruned

end Grammar

end PathTemplate
