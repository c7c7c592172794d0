/-
# PathTemplate.Piece — flat text cut into parameter tokens and the text between them.

A token occurs where an opening character and the next bound after it, if that is a closing character, enclose
a content without any bound. An opening character that is followed by another opening character, or by no
bound at all, is ordinary text, and so is a stray closing character. Neither the separator nor the bounds of
optional segments play a role here: whether a token is well formed is a question for `Token`.
-/
import PathTemplate.Brackets

namespace PathTemplate

/-- A run of ordinary text, or the content of a token. -/
inductive Piece
  | text (t : Text)
  | token (content : Text)
deriving DecidableEq, Repr

/-- The piece as it stands in the text. -/
def Piece.raw (b : Brackets) : Piece → Text
  | text t => t
  | token content => b.opening :: content ++ [b.closing]

/-- Put a character of ordinary text in front of the pieces, joining it to a run that follows. -/
def Piece.attach (c : Char) : List Piece → List Piece
  | .text t :: rest => .text (c :: t) :: rest
  | pieces => .text [c] :: pieces

namespace Brackets

/-- The text up to the next bound, and the text after it, if that bound is a closing one. -/
def content? (b : Brackets) : Text → Option (Text × Text)
  | [] => none
  | c :: rest =>
    if c = b.closing then some ([], rest)
    else if c = b.opening then none
    else (b.content? rest).map fun (content, after) => (c :: content, after)

theorem content?_append {b : Brackets} {t content after : Text}
    (h : b.content? t = some (content, after)) : t = content ++ b.closing :: after := by
  induction t generalizing content after with
  | nil => simp [content?] at h
  | cons c rest ih =>
    simp only [content?] at h
    split at h
    · rename_i hc
      obtain ⟨rfl, rfl⟩ := Prod.mk.inj (Option.some.inj h)
      simp [hc]
    · split at h
      · simp at h
      · obtain ⟨⟨i, a⟩, hi, heq⟩ := Option.map_eq_some_iff.1 h
        obtain ⟨rfl, rfl⟩ := Prod.mk.inj heq
        simp [ih hi]

theorem content?_length {b : Brackets} {t content after : Text}
    (h : b.content? t = some (content, after)) : after.length < t.length := by
  have := congrArg List.length (content?_append h)
  simp at this
  omega

/-- The pieces of a text, from left to right. No run of text is empty and no two runs are neighbours. -/
def pieces (b : Brackets) (t : Text) : List Piece :=
  match t with
  | [] => []
  | c :: rest =>
    if c = b.opening then
      match _h : b.content? rest with
      | some (content, after) => .token content :: b.pieces after
      | none => Piece.attach c (b.pieces rest)
    else Piece.attach c (b.pieces rest)
termination_by t.length
decreasing_by
  · have := content?_length _h
    simp only [List.length_cons]
    omega
  · simp
  · simp

end Brackets

end PathTemplate
