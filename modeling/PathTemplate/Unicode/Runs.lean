/-
# PathTemplate.Unicode.Runs — properties that give every code point a value.

A general category or a script gives a value to each code point, and mostly the same one to its neighbours. The
modules beside this one write such a property from zero up as runs: a sign for the value, and how many code points
have it. A run cannot be empty, because what it keeps is the number of code points after its first one.
-/
import PathTemplate.Text

namespace PathTemplate.Unicode

/-- Neighbouring code points with the same value. -/
structure Run where
  /-- The sign of the value: a capital letter, and small ones after it. -/
  sign : Text
  /-- How many code points follow the first one. -/
  further : Nat

namespace Run

/-- The code points of the run. -/
def length (run : Run) : Nat := run.further + 1

/-- The runs that a text writes: the sign of each, then its length unless that is one. A capital letter is where a
run begins, so the text is gone through from its end, and the letters and digits passed belong to the next capital. -/
def ofText (t : Text) : List Run :=
  let (_, _, runs) := t.foldr (fun c (letters, digits, runs) =>
    if c.isDigit then (letters, c :: digits, runs)
    else if c.isLower then (c :: letters, digits, runs)
    else ([], [], ⟨c :: letters, Text.decimalNumber digits - 1⟩ :: runs)) ([], [], [])
  runs

example : (ofText "Cc32ZsPo3".toList).map (·.sign) = ["Cc".toList, "Zs".toList, "Po".toList] ∧
    (ofText "Cc32ZsPo3".toList).map (·.length) = [32, 1, 3] := by decide

/-- The sign of the `n`-th code point of the runs, if they reach so far. -/
def signAt? (n : Nat) : List Run → Option Text
  | [] => none
  | run :: runs => if n < run.length then some run.sign else signAt? (n - run.length) runs

end Run

end PathTemplate.Unicode
