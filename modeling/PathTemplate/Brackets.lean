/-
# PathTemplate.Brackets — the first balanced span between two bound characters.

A span begins at the first opening character and ends where the opening and closing characters since then
balance. Unbalanced text is never an error: if a closing character comes before the first opening one, or the
text ends before the balance is reached, there is no span and all bounds are ordinary characters. The two
characters may be equal; then every one of them opens and there is no span either.

Positions are not used to cut the text: a span is given by its three parts, and the byte offsets of its
bounds are computed from them.
-/
import PathTemplate.Text

namespace PathTemplate

/-- A pair of bound characters. -/
structure Brackets where
  opening : Char
  closing : Char
deriving DecidableEq, Repr

/-- A text cut at the bounds of a span: the text before it, between its bounds, and after it. -/
structure Span where
  before : Text
  interior : Text
  after : Text
deriving DecidableEq, Repr

namespace Brackets

/-- Is the character one of the two bounds? -/
def isBound (b : Brackets) (c : Char) : Bool := c == b.opening || c == b.closing

/-! ## Finding the span -/

/-- The text up to the closing character of a span that is open, and the text after that character. `depth`
is the number of spans opened inside the open one and not yet closed. -/
def interior? (b : Brackets) : Nat → Text → Option (Text × Text)
  | _, [] => none
  | depth, c :: rest =>
    if c = b.opening then
      (b.interior? (depth + 1) rest).map fun (inside, after) => (c :: inside, after)
    else if c = b.closing then
      match depth with
      | 0 => some ([], rest)
      | outer + 1 => (b.interior? outer rest).map fun (inside, after) => (c :: inside, after)
    else
      (b.interior? depth rest).map fun (inside, after) => (c :: inside, after)

/-- The first balanced span of the text. -/
def firstSpan? (b : Brackets) : Text → Option Span
  | [] => none
  | c :: rest =>
    if c = b.opening then
      (b.interior? 0 rest).map fun (inside, after) => ⟨[], inside, after⟩
    else if c = b.closing then none
    else (b.firstSpan? rest).map fun span => { span with before := c :: span.before }

end Brackets

namespace Span

/-- The span with both of its bounds. -/
def text (b : Brackets) (span : Span) : Text := b.opening :: span.interior ++ [b.closing]

/-- The byte offset of the opening bound. -/
def openingOffset (span : Span) : Nat := span.before.utf8Size

/-- The byte offset of the closing bound. -/
def closingOffset (b : Brackets) (span : Span) : Nat :=
  span.before.utf8Size + b.opening.utf8Size + span.interior.utf8Size

end Span

/-! ## The parts make up the text -/

namespace Brackets

theorem interior?_append {b : Brackets} {depth : Nat} {t inside after : Text}
    (h : b.interior? depth t = some (inside, after)) : t = inside ++ b.closing :: after := by
  induction t generalizing depth inside after with
  | nil => simp [interior?] at h
  | cons c rest ih =>
    simp only [interior?] at h
    split at h
    · obtain ⟨⟨i, a⟩, hi, heq⟩ := Option.map_eq_some_iff.1 h
      obtain ⟨rfl, rfl⟩ := Prod.mk.inj heq
      simp [ih hi]
    · split at h
      · rename_i hc
        split at h
        · obtain ⟨rfl, rfl⟩ := Prod.mk.inj (Option.some.inj h)
          simp [hc]
        · obtain ⟨⟨i, a⟩, hi, heq⟩ := Option.map_eq_some_iff.1 h
          obtain ⟨rfl, rfl⟩ := Prod.mk.inj heq
          simp [ih hi]
      · obtain ⟨⟨i, a⟩, hi, heq⟩ := Option.map_eq_some_iff.1 h
        obtain ⟨rfl, rfl⟩ := Prod.mk.inj heq
        simp [ih hi]

theorem firstSpan?_append {b : Brackets} {t : Text} {span : Span} (h : b.firstSpan? t = some span) :
    t = span.before ++ span.text b ++ span.after := by
  induction t generalizing span with
  | nil => simp [firstSpan?] at h
  | cons c rest ih =>
    simp only [firstSpan?] at h
    split at h
    · rename_i hc
      obtain ⟨⟨i, a⟩, hi, rfl⟩ := Option.map_eq_some_iff.1 h
      simp [Span.text, hc, interior?_append hi]
    · split at h
      · simp at h
      · obtain ⟨s, hs, rfl⟩ := Option.map_eq_some_iff.1 h
        simpa [Span.text] using ih hs

theorem firstSpan?_length {b : Brackets} {t : Text} {span : Span} (h : b.firstSpan? t = some span) :
    span.interior.length < t.length ∧ span.after.length < t.length := by
  have := congrArg List.length (firstSpan?_append h)
  simp [Span.text] at this
  omega

end Brackets

end PathTemplate
