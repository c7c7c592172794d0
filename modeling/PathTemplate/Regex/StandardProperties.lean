/-
# PathTemplate.Regex.StandardProperties — the table of general categories and scripts.

The standard table knows the general categories and the scripts, by all their names. A name stands alone, or after
the name of the property and a sign of equality. Case makes no difference to names, nor does what joins the words
of one. Other properties of the Unicode standard are not in this table.

The set of a property has a change wherever a run of code points with one of its values begins or ends.
-/
import PathTemplate.Regex.Property
import PathTemplate.Unicode.GeneralCategory
import PathTemplate.Unicode.Script

namespace PathTemplate.Regex

open Unicode (Run)

/-! ## Sets of runs -/

namespace CharSet

/-- The changes of the runs from `start` on whose signs have the property. Below `start` the set is as `inside`
says. -/
def runChanges (p : Text → Bool) (start : Nat) (inside : Bool) : List Run → List Nat
  | [] => []
  | run :: runs =>
    consChange start inside (p run.sign) (runChanges p (start + run.length) (p run.sign) runs)

theorem le_of_mem_runChanges {p : Text → Bool} {start n : Nat} {inside : Bool} {runs : List Run}
    (h : n ∈ runChanges p start inside runs) : start ≤ n := by
  induction runs generalizing start inside with
  | nil => simp [runChanges] at h
  | cons run runs ih =>
    rcases mem_consChange h with rfl | h
    · exact Nat.le_refl _
    · exact Nat.le_trans (Nat.le_add_right _ _) (ih h)

/-- What follows the first run changes beyond its first code point, since no run is empty. -/
theorem lt_of_mem_runChanges {p : Text → Bool} {start n : Nat} {inside : Bool} {run : Run} {runs : List Run}
    (h : n ∈ runChanges p (start + run.length) inside runs) : start < n :=
  Nat.lt_of_lt_of_le (Nat.lt_add_of_pos_right (Nat.succ_pos run.further)) (le_of_mem_runChanges h)

theorem isAscending_runChanges (p : Text → Bool) (start : Nat) (inside : Bool) (runs : List Run) :
    isAscending (runChanges p start inside runs) = true := by
  induction runs generalizing start inside with
  | nil => rfl
  | cons run runs ih => exact isAscending_consChange (fun _ => lt_of_mem_runChanges) (ih _ _)

/-- The code points of the runs whose signs have the property. -/
def ofRuns (p : Text → Bool) (runs : List Run) : CharSet :=
  ⟨runChanges p 0 false runs, isAscending_runChanges p 0 false runs⟩

theorem insideAt_runChanges {p : Text → Bool} {start n : Nat} {inside : Bool} {runs : List Run} {sign : Text}
    (h : Run.signAt? n runs = some sign) : insideAt (start + n) inside (runChanges p start inside runs) = p sign := by
  induction runs generalizing start n inside with
  | nil => simp [Run.signAt?] at h
  | cons run runs ih =>
    rw [runChanges, insideAt_consChange_of_le (Nat.le_add_right _ _)]
    rw [Run.signAt?] at h
    split at h
    · rename_i hn
      obtain rfl := Option.some.inj h
      exact insideAt_of_lt fun m hm =>
        Nat.lt_of_lt_of_le (Nat.add_lt_add_left hn _) (le_of_mem_runChanges hm)
    · rename_i hn
      have hstart : start + n = start + run.length + (n - run.length) := by omega
      rw [hstart]
      exact ih h

/-- A code point is in the set if the run it lies in has a sign with the property. -/
theorem holds_ofRuns {p : Text → Bool} {n : Nat} {runs : List Run} {sign : Text}
    (h : Run.signAt? n runs = some sign) : (ofRuns p runs).holds n = p sign := by
  have hinside : insideAt (0 + n) false (runChanges p 0 false runs) = p sign := insideAt_runChanges h
  rwa [Nat.zero_add] at hinside

end CharSet

namespace StandardProperties

/-! ## Names -/

/-- The name without what joins its words, in small letters, and without characters beyond ASCII. -/
def plainName (name : Text) : Text :=
  (name.filter fun c => c != ' ' && c != '_' && c != '-' && decide (c.toNat < 0x80)).map Char.toLower

/-- The form in which names are compared. They may begin with a word that says that something is so; but one name
that seems to is another word, and it is no name of the letter that would be left. -/
def normalName : Text → Text
  | 'i' :: 's' :: rest | 'i' :: 'S' :: rest | 'I' :: 's' :: rest | 'I' :: 'S' :: rest =>
    if plainName rest = ['c'] then ['i', 's', 'c'] else plainName rest
  | name => plainName name

/-- The texts before and after the first place at which the sign stands. -/
def splitAt? (sign : Text) : Text → Option (Text × Text)
  | [] => none
  | c :: rest =>
    if sign.isPrefixOf (c :: rest) then some ([], (c :: rest).drop sign.length)
    else (splitAt? sign rest).map fun (before, after) => (c :: before, after)

/-- The property and the value of a name that has both. The sign between them makes no difference, not even if it
says that they are not equal. -/
def propertyValue? (name : Text) : Option (Text × Text) :=
  splitAt? ['!', '='] name <|> splitAt? [':'] name <|> splitAt? ['='] name

/-! ## Looking up -/

/-- The set of a general category, of a group of them, or of all code points that have one or are ASCII. -/
def category? (name : Text) : Option CharSet :=
  if name = "any".toList then some .all
  else if name = "assigned".toList then some (.ofRuns (· != "Cn".toList) Unicode.categoryRuns)
  else if name = "ascii".toList then some (.between 0 0x7F)
  else Unicode.categoryNames.findSome? fun (names, signs) =>
    if names.any (·.toList = name) then
      some (.ofRuns (fun sign => signs.any (·.toList = sign)) Unicode.categoryRuns)
    else none

/-- The set of a script. -/
def script? (name : Text) : Option CharSet :=
  Unicode.scriptNames.findSome? fun (sign, names) =>
    if sign.toList.map Char.toLower = name ∨ names.any (·.toList = name) then
      some (.ofRuns (· = sign.toList) Unicode.scriptRuns)
    else none

/-- The set of a property. A name alone is that of a general category or else of a script. -/
def find? (name : Text) : Option CharSet :=
  match propertyValue? name with
  | none => category? (normalName name) <|> script? (normalName name)
  | some (property, value) =>
    let property := normalName property
    if property = "gc".toList ∨ property = "generalcategory".toList then category? (normalName value)
    else if property = "sc".toList ∨ property = "script".toList then script? (normalName value)
    else none

end StandardProperties

/-- Properties are looked up in the standard table unless another one is given. -/
instance : PropertyTable := ⟨StandardProperties.find?⟩

end PathTemplate.Regex
