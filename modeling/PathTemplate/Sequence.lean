/-
# PathTemplate.Sequence — a template as a tree of segments.

A sequence is a list of literal texts, parameter tokens and optional segments; an optional segment holds a
sequence again. The type writes each segment together with the rest of its sequence, so that a walk over the
whole tree is one structural recursion: first into the body of an optional segment, then on to what follows it.
That order, from left to right through the source, is called document order.

The characters that bounded a segment are not stored. They belong to the grammar.
-/
import PathTemplate.Token

namespace PathTemplate

/-- A sequence of segments. -/
inductive Sequence
  | nil
  | literal (text : Text) (rest : Sequence)
  | parameter (token : Token) (rest : Sequence)
  | optional (body rest : Sequence)
deriving DecidableEq, Repr

namespace Sequence

/-- The segments of the first sequence, then those of the second. -/
def append : Sequence → Sequence → Sequence
  | nil, s => s
  | literal t rest, s => literal t (rest.append s)
  | parameter token rest, s => parameter token (rest.append s)
  | optional body rest, s => optional body (rest.append s)

instance : Append Sequence := ⟨append⟩

/-- The number of segments, nested ones included. -/
def size : Sequence → Nat
  | nil => 0
  | literal _ rest => rest.size + 1
  | parameter _ rest => rest.size + 1
  | optional body rest => body.size + rest.size + 1

/-- The deepest nesting of optional segments. -/
def depth : Sequence → Nat
  | nil => 0
  | literal _ rest => rest.depth
  | parameter _ rest => rest.depth
  | optional body rest => max (body.depth + 1) rest.depth

/-- All parameter tokens in document order. -/
def tokens : Sequence → List Token
  | nil => []
  | literal _ rest => rest.tokens
  | parameter token rest => token :: rest.tokens
  | optional body rest => body.tokens ++ rest.tokens

/-- The parameter tokens that stand in the sequence itself, outside its optional segments. -/
def ownTokens : Sequence → List Token
  | nil => []
  | literal _ rest => rest.ownTokens
  | parameter token rest => token :: rest.ownTokens
  | optional _ rest => rest.ownTokens

end Sequence

end PathTemplate
