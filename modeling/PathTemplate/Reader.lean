/-
# PathTemplate.Reader — readers that take a value off the front of a text.

A reader either fails or gives a value and what is left of the text. What is left is never longer than the
text, and the type says so: a loop that first takes a character and then runs any reader ends because the
text runs out, without a further argument.
-/
import PathTemplate.Text

namespace PathTemplate

/-- A text that is no longer than `t`. -/
abbrev Remainder (t : Text) := { rest : Text // rest.length ≤ t.length }

namespace Remainder

/-- All of the text. -/
def all (t : Text) : Remainder t := ⟨t, Nat.le_refl _⟩

/-- What remains after the first character. -/
def tail (c : Char) (rest : Text) : Remainder (c :: rest) := ⟨rest, Nat.le_succ _⟩

/-- A remainder of a remainder. -/
def within {t : Text} (r : Remainder t) (s : Remainder r.val) : Remainder t :=
  ⟨s.val, Nat.le_trans s.property r.property⟩

/-- A run of characters and one character more make a text shorter. -/
theorem length_lt_of_dropWhile {p : Char → Bool} {t : Text} {c : Char} {rest : Text}
    (h : t.dropWhile p = c :: rest) : rest.length < t.length := by
  have hle := (List.dropWhile_suffix (l := t) p).length_le
  rw [h, List.length_cons] at hle
  omega

/-- What remains after a run of characters and one character more. -/
def afterRun {p : Char → Bool} {t : Text} {c : Char} {rest : Text} (h : t.dropWhile p = c :: rest) :
    Remainder t :=
  ⟨rest, Nat.le_of_lt (length_lt_of_dropWhile h)⟩

end Remainder

/-- A reader of values of type `α`. -/
def Reader (α : Type) := (t : Text) → Option (α × Remainder t)

namespace Reader

/-! ## Composing readers -/

/-- Take nothing and give the value. -/
def succeed (a : α) : Reader α := fun t => some (a, .all t)

/-- Run a reader, then the one that its value chooses on what is left. -/
def andThen (x : Reader α) (f : α → Reader β) : Reader β := fun t =>
  match x t with
  | none => none
  | some (a, rest) =>
    match f a rest.val with
    | none => none
    | some (b, rest') => some (b, rest.within rest')

/-- Run the first reader, or the second one on the same text if the first fails. -/
def orElse (x y : Reader α) : Reader α := fun t =>
  match x t with
  | none => y t
  | some result => some result

instance : Monad Reader where
  pure := succeed
  bind := andThen

instance : Alternative Reader where
  failure := fun _ => none
  orElse := fun x y => orElse x (y ())

/-! ## Single characters -/

/-- Take the next character. Fails at the end of the text. -/
def next : Reader Char
  | [] => none
  | c :: rest => some (c, .tail c rest)

/-- The next character, without taking it. -/
def peek : Reader (Option Char) := fun t => some (t.head?, .all t)

/-- Take the next character if it is `c`, and tell whether it was. -/
def skip (c : Char) : Reader Bool
  | [] => some (false, .all [])
  | d :: rest =>
    if d = c then some (true, .tail d rest) else some (false, .all (d :: rest))

/-- Take the character `c`, which has to come next. -/
def expect (c : Char) : Reader Unit := do guard (← skip c)

/-- Run a reader, but leave the text as it is. -/
def lookahead (x : Reader α) : Reader α := fun t =>
  match x t with
  | none => none
  | some (a, _) => some (a, .all t)

/-- Give the value if there is one. -/
def ofOption : Option α → Reader α
  | some a => succeed a
  | none => failure

/-- Take the longest run of characters with the property. -/
def run (p : Char → Bool) : Reader Text := fun t =>
  some (t.takeWhile p, ⟨t.dropWhile p, (List.dropWhile_suffix p).length_le⟩)

end Reader

end PathTemplate
