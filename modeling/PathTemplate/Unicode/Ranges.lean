/-
# PathTemplate.Unicode.Ranges — sets of characters as sorted ranges of code points.

A property of the Unicode standard is a finite list of ranges. The modules beside this one hold the lists of
the properties that patterns and quoted text ask for; this one only says what such a list means.
-/

namespace PathTemplate.Unicode

/-- Ranges of code points, each with both ends included, in ascending order and disjoint. -/
abbrev Ranges := List (Nat × Nat)

/-- Is the code point in one of the ranges? The list is sorted, so the search ends at the first range that
begins beyond it. -/
def Ranges.holds (n : Nat) : Ranges → Bool
  | [] => false
  | (first, last) :: rest => if n < first then false else n ≤ last || Ranges.holds n rest

/-- Is the character in one of the ranges? -/
def Ranges.contains (ranges : Ranges) (c : Char) : Bool := ranges.holds c.toNat

end PathTemplate.Unicode
