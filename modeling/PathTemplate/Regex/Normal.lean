/-
# PathTemplate.Regex.Normal — expressions in normal form.

Expressions are built by the functions of this module, which bring them into a normal form. A sequence is one
chain of items, without empty ones and with the characters of a text side by side in one literal. A choice is
one chain of alternatives. A set with one character is a literal, and alternatives that are all characters or
all sets are one set. Repetition is dropped where it says nothing.

Alternatives that begin with the same items share them: the items come first, and the choice is between what
follows. Sharing changes nothing about what can be matched, but it does about what is preferred. Where the
shared items can be matched in several ways, one of these is settled on before the alternatives are tried, and
not the other way round. Items are the same if their normal forms are, so it is the normal form that decides
where there is something to share.
-/
import PathTemplate.Regex.Basic

namespace PathTemplate.Regex

/-! ## Sets -/

/-- One character of the set. -/
def ofSet (s : CharSet) : Regex :=
  match s.single? with
  | some c => literal [c]
  | none => set s

/-! ## Sequences -/

/-- What is matched one after another, without what is empty. -/
def items : Regex → List Regex
  | empty => []
  | seq first second => first.items ++ second.items
  | r => [r]

/-- The items with neighbouring literals made one. -/
def joinLiterals : List Regex → List Regex
  | [] => []
  | r :: rest =>
    match r, joinLiterals rest with
    | literal s, literal t :: rest => literal (s ++ t) :: rest
    | r, rest => r :: rest

/-- The expressions one after another. -/
def sequence (rs : List Regex) : Regex := seqAll (joinLiterals (rs.flatMap items))

/-! ## Choices -/

/-- The alternatives, the preferred ones first. -/
def branches : Regex → List Regex
  | alt first second => first.branches ++ second.branches
  | r => [r]

/-- The character that the expression stands for, if it is a literal of that length. -/
def character? : Regex → Option CharSet
  | literal [c] => some (.single c)
  | _ => none

/-- The set that the expression stands for, if it is one. -/
def set? : Regex → Option CharSet
  | set s => some s
  | _ => none

/-- One set for all the alternatives, if each is a character or each is a set. -/
def mergedSet? (rs : List Regex) : Option CharSet :=
  (rs.mapM character? <|> rs.mapM set?).map CharSet.unions

/-- One of the alternatives, none of which begin alike. -/
def oneOf (rs : List Regex) : Regex :=
  let rs := rs.flatMap branches
  match mergedSet? rs with
  | some s => ofSet s
  | none => altAll rs

/-- The items with which both sequences begin. -/
def commonItems : List Regex → List Regex → List Regex
  | r :: rs, r' :: rs' => if r = r' then r :: commonItems rs rs' else []
  | _, _ => []

/-- The items with which all the alternatives begin. A single item is not shared. -/
def sharedItems (rs : List Regex) : List Regex :=
  match rs.map items with
  | first :: second :: rest =>
    if (first :: second :: rest).all (2 ≤ ·.length) then (second :: rest).foldl commonItems first else []
  | _ => []

/-- One of the expressions, the earlier ones preferred, after what they share. -/
def choice (rs : List Regex) : Regex :=
  let rs := rs.flatMap branches
  let shared := sharedItems rs
  if shared.isEmpty then oneOf rs
  else sequence (shared ++ [oneOf (rs.map fun r => seqAll (r.items.drop shared.length))])

/-! ## Repetition -/

/-- Is it plain from the form of the expression that no match takes text? -/
def takesNone : Regex → Bool
  | empty => true
  | literal text => text.isEmpty
  | set _ => false
  | anchor _ => true
  | seq first second => first.takesNone && second.takesNone
  | alt first second => first.takesNone && second.takesNone
  | repeated body _ most _ => body.takesNone || most == some 0
  | numbered _ body => body.takesNone
  | named _ body => body.takesNone

/-- The bounds of a repetition. A body that never takes text has nothing to gain from a second turn. -/
def bounds (body : Regex) (least : Nat) (most : Option Nat) : Nat × Option Nat :=
  if body.takesNone then (min least 1, some ((most.map (min · 1)).getD 1)) else (least, most)

/-- The expression at least `least` times and at most as often as `most` says. -/
def repetition (body : Regex) (least : Nat) (most : Option Nat) (greedy : Bool) : Regex :=
  match body.bounds least most with
  | (_, some 0) => empty
  | (1, some 1) => body
  | (least, most) => repeated body least most greedy

end PathTemplate.Regex
