/-
# PathTemplate.Template — reading a template.

A template is read by taking its first balanced span as an optional segment, reading the span's interior and
the text after the span in the same way, and cutting everything outside spans into tokens and literal text.
Bounds that belong to no span are literal text. The only fault is a token with a faulty content, and of
several faults the leftmost is reported.
-/
import PathTemplate.Error
import PathTemplate.Piece
import PathTemplate.Sequence

namespace PathTemplate

/-! ## Reading -/

namespace Grammar

/-- Read the token with the given content. -/
def token? (g : Grammar) (content : Text) : Except TokenFault Token :=
  Token.ofContent? g.separator ((Piece.token content).raw g.parameter) content

/-- The segments of flat text: every token has to be well formed. -/
def flatSequence? (g : Grammar) : List Piece → Except Error Sequence
  | [] => .ok .nil
  | .text t :: rest => (g.flatSequence? rest).map (.literal t)
  | .token content :: rest =>
    match g.token? content with
    | .ok token => (g.flatSequence? rest).map (.parameter token)
    | .error fault => .error (.invalidParameter ((Piece.token content).raw g.parameter) fault)

/-- The segments of a text. -/
def sequence? (g : Grammar) (t : Text) : Except Error Sequence :=
  match _h : g.option.firstSpan? t with
  | none => g.flatSequence? (g.parameter.pieces t)
  | some span => do
    let before ← g.flatSequence? (g.parameter.pieces span.before)
    let body ← g.sequence? span.interior
    let after ← g.sequence? span.after
    return before ++ .optional body after
termination_by t.length
decreasing_by
  · exact (Brackets.firstSpan?_length _h).1
  · exact (Brackets.firstSpan?_length _h).2

end Grammar

/-- A template that has been read: its source, the grammar it was read with, and its segments. -/
structure Template where
  source : Text
  grammar : Grammar
  segments : Sequence
deriving DecidableEq

namespace Template

/-- Read a template. -/
def parse? (g : Grammar) (source : Text) : Except Error Template :=
  (g.sequence? source).map fun segments => ⟨source, g, segments⟩

/-! ## Questions about a template -/

/-- The names of all parameters in document order, each once. -/
def parameterNames (t : Template) : List Text := (t.segments.tokens.map (·.name)).eraseDups

/-- The names of the parameters outside every optional segment, each once. -/
def requiredNames (t : Template) : List Text := (t.segments.ownTokens.map (·.name)).eraseDups

/-- The deepest nesting of optional segments. -/
def depth (t : Template) : Nat := t.segments.depth

end Template

end PathTemplate
