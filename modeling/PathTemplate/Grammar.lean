/-
# PathTemplate.Grammar — the five characters that give a template its structure.

A grammar chooses a character for each of five roles: the two bounds of an optional segment, the two bounds of
a parameter token, and the separator between the name and the type of a parameter. `Delimiters` is such a
choice before it has been checked. A `Grammar` carries the proof that the five are pairwise distinct, so no
function on templates ever meets an ambiguous character.
-/
import PathTemplate.Brackets

namespace PathTemplate

/-! ## Roles and clashes -/

/-- What a character of a grammar is for. -/
inductive Role
  | optionOpening
  | optionClosing
  | parameterOpening
  | parameterClosing
  | separator
deriving DecidableEq, Repr

/-- The role as messages name it. -/
def Role.description : Role → Text
  | optionOpening => "option open".toList
  | optionClosing => "option close".toList
  | parameterOpening => "parameter open".toList
  | parameterClosing => "parameter close".toList
  | separator => "separator".toList

/-- Two roles that were given the same character. -/
structure Clash where
  first : Role
  second : Role
  char : Char
deriving DecidableEq, Repr

/-- The clash as messages describe it. -/
def Clash.description (clash : Clash) : Text :=
  clash.first.description ++ " and ".toList ++ clash.second.description ++ " are both '".toList ++
    [clash.char, '\'']

/-- A choice of characters for the five roles. -/
structure Delimiters where
  option : Brackets
  parameter : Brackets
  separator : Char
deriving DecidableEq, Repr

namespace Delimiters

/-- The roles with their characters, in the order in which clashes are reported. -/
def assignments (d : Delimiters) : List (Role × Char) :=
  [(.optionOpening, d.option.opening), (.optionClosing, d.option.closing),
   (.parameterOpening, d.parameter.opening), (.parameterClosing, d.parameter.closing),
   (.separator, d.separator)]

/-- The five characters. -/
def characters (d : Delimiters) : List Char := d.assignments.map (·.2)

/-- The first assignment that shares its character with a later one, with the first such later one. -/
def firstClash? : List (Role × Char) → Option Clash
  | [] => none
  | (role, c) :: rest =>
    match rest.find? (·.2 == c) with
    | some (other, _) => some ⟨role, other, c⟩
    | none => firstClash? rest

/-- The first clash among the five characters. -/
def clash? (d : Delimiters) : Option Clash := firstClash? d.assignments

theorem firstClash?_eq_none_iff {as : List (Role × Char)} :
    firstClash? as = none ↔ (as.map (·.2)).Nodup := by
  induction as with
  | nil => simp [firstClash?]
  | cons a rest ih =>
    obtain ⟨role, c⟩ := a
    simp only [firstClash?]
    cases h : rest.find? (·.2 == c) with
    | some other =>
      have hmem := List.mem_of_find?_eq_some h
      have hc : other.2 = c := by simpa using List.find?_some h
      simp only [reduceCtorEq, List.map_cons, List.nodup_cons, List.mem_map, false_iff, not_and]
      intro hnot
      exact absurd ⟨other, hmem, hc⟩ hnot
    | none =>
      rw [List.find?_eq_none] at h
      simp only [List.map_cons, List.nodup_cons, List.mem_map]
      rw [ih]
      refine ⟨fun hn => ⟨?_, hn⟩, fun hn => hn.2⟩
      rintro ⟨x, hx, rfl⟩
      exact h x hx (by simp)

end Delimiters

/-! ## Grammars -/

/-- Five pairwise distinct characters for the five roles. -/
structure Grammar extends Delimiters where
  distinct : toDelimiters.characters.Nodup
deriving DecidableEq

namespace Grammar

/-- The grammar of the delimiters, or the first clash among them. -/
def ofDelimiters? (d : Delimiters) : Except Clash Grammar :=
  match h : d.clash? with
  | some clash => .error clash
  | none => .ok ⟨d, Delimiters.firstClash?_eq_none_iff.1 h⟩

/-- Optional segments in square brackets, parameters in braces, and a colon between name and type. -/
def standard : Grammar := ⟨⟨⟨'[', ']'⟩, ⟨'{', '}'⟩, ':'⟩, by decide⟩

instance : Inhabited Grammar := ⟨standard⟩

/-! ## Bound characters -/

/-- Does the character bound optional segments? -/
def isOptionBound (g : Grammar) (c : Char) : Bool := g.option.isBound c

/-- Does the character bound parameter tokens? -/
def isParameterBound (g : Grammar) (c : Char) : Bool := g.parameter.isBound c

/-- Is the character one of the four bounds? The separator is not a bound. -/
def isBound (g : Grammar) (c : Char) : Bool := g.isOptionBound c || g.isParameterBound c

/-- Does the text hold one of the four bounds? -/
def containsBound (g : Grammar) (t : Text) : Bool := t.any g.isBound

end Grammar

end PathTemplate
