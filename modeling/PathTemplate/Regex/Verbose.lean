/-
# PathTemplate.Regex.Verbose — blanks and comments between the lexemes of a pattern.

In verbose mode a pattern may be laid out for the eye: white space has no meaning, and a number sign begins a
comment that runs to the end of its line. Out of verbose mode nothing is left out.
-/
import PathTemplate.Reader
import PathTemplate.Unicode.Property

namespace PathTemplate.Regex

namespace Lexer

/-- The text without the blanks and comments at its front. A comment runs from a number sign to the end of
its line; `inside` says that one is open. -/
def dropIgnored (inside : Bool) : Text → Text
  | [] => []
  | c :: rest =>
    if inside then dropIgnored (c != '\n') rest
    else if Unicode.isBlank c then dropIgnored false rest
    else if c = '#' then dropIgnored true rest
    else c :: rest

theorem length_dropIgnored (inside : Bool) (t : Text) : (dropIgnored inside t).length ≤ t.length := by
  induction t generalizing inside with
  | nil => simp [dropIgnored]
  | cons c rest ih =>
    simp only [dropIgnored]
    split
    · exact Nat.le_succ_of_le (ih _)
    · split
      · exact Nat.le_succ_of_le (ih _)
      · split
        · exact Nat.le_succ_of_le (ih _)
        · exact Nat.le_refl _

/-- The text from where it counts: in verbose mode without the blanks and comments at its front. -/
def visible (verbose : Bool) (t : Text) : Text := if verbose then dropIgnored false t else t

theorem length_visible (verbose : Bool) (t : Text) : (visible verbose t).length ≤ t.length := by
  unfold visible
  split
  · exact length_dropIgnored false t
  · exact Nat.le_refl _

/-- Skip blanks and comments, but only in verbose mode. -/
def ignored (verbose : Bool) : Reader Unit := fun t =>
  some ((), ⟨visible verbose t, length_visible verbose t⟩)

/-- The longest run of characters with the property, with blanks and comments between and after them left
out, and what follows it. -/
def splitSpaced (p : Char → Bool) (inside : Bool) : Text → Text × Text
  | [] => ([], [])
  | c :: rest =>
    if inside then splitSpaced p (c != '\n') rest
    else if p c then
      let (taken, left) := splitSpaced p false rest
      (c :: taken, left)
    else if Unicode.isBlank c then splitSpaced p false rest
    else if c = '#' then splitSpaced p true rest
    else ([], c :: rest)

theorem length_splitSpaced (p : Char → Bool) (inside : Bool) (t : Text) :
    (splitSpaced p inside t).2.length ≤ t.length := by
  induction t generalizing inside with
  | nil => simp [splitSpaced]
  | cons c rest ih =>
    simp only [splitSpaced]
    split
    · exact Nat.le_succ_of_le (ih _)
    · split
      · exact Nat.le_succ_of_le (ih _)
      · split
        · exact Nat.le_succ_of_le (ih _)
        · split
          · exact Nat.le_succ_of_le (ih _)
          · exact Nat.le_refl _

/-- Take the longest run of characters with the property; in verbose mode blanks and comments may stand
between and after them. -/
def spaced (verbose : Bool) (p : Char → Bool) : Reader Text :=
  if verbose then fun t =>
    some ((splitSpaced p false t).1, ⟨(splitSpaced p false t).2, length_splitSpaced p false t⟩)
  else Reader.run p

end Lexer

end PathTemplate.Regex
