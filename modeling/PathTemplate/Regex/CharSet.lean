/-
# PathTemplate.Regex.CharSet — sets of characters.

A set is given by the code points at which membership changes, on the way up from zero: nothing below the first
of them is in the set, everything from there to the second is, and so on. Two sets with the same members have
the same changes, so equality of sets can be decided.

All operations on two sets are one: the changes are merged, and those stay at which the combination of both
memberships changes. What that does to membership is `contains_combine`.
-/
import PathTemplate.Text
import PathTemplate.Unicode.CaseFolding
import PathTemplate.Unicode.Property
import PathTemplate.Unicode.Word

namespace PathTemplate.Regex

/-! ## Changes in ascending order -/

/-- Are the numbers in ascending order? -/
def isAscending : List Nat → Bool
  | [] => true
  | [_] => true
  | a :: b :: rest => a < b && isAscending (b :: rest)

/-- Each number is below all that follow it. -/
theorem lt_of_isAscending {a : Nat} {changes : List Nat} (h : isAscending (a :: changes) = true) :
    ∀ n ∈ changes, a < n := by
  induction changes generalizing a with
  | nil => simp
  | cons b rest ih =>
    obtain ⟨hab, hrest⟩ := (Bool.and_eq_true _ _).mp h
    have hlt : a < b := of_decide_eq_true hab
    intro n hn
    rcases List.mem_cons.mp hn with rfl | hn
    · exact hlt
    · exact Nat.lt_trans hlt (ih hrest n hn)

/-- What follows the first number is in ascending order. -/
theorem isAscending_tail {a : Nat} {changes : List Nat} (h : isAscending (a :: changes) = true) :
    isAscending changes = true := by
  cases changes with
  | nil => rfl
  | cons b rest => exact ((Bool.and_eq_true _ _).mp h).2

/-- A number below all others can stand in front of them. -/
theorem isAscending_cons {a : Nat} {changes : List Nat} (hlt : ∀ n ∈ changes, a < n)
    (h : isAscending changes = true) : isAscending (a :: changes) = true := by
  cases changes with
  | nil => rfl
  | cons b rest => exact (Bool.and_eq_true _ _).mpr ⟨decide_eq_true (hlt b List.mem_cons_self), h⟩

/-- A set of characters. -/
structure CharSet where
  changes : List Nat
  isAscending_changes : isAscending changes = true
deriving DecidableEq

namespace CharSet

/-! ## Membership -/

/-- Is the code point in the set, if `inside` says whether what lies below the first change is? -/
def insideAt (n : Nat) (inside : Bool) : List Nat → Bool
  | [] => inside
  | change :: changes => if n < change then inside else insideAt n (!inside) changes

/-- Is the code point in the set? -/
def holds (s : CharSet) (n : Nat) : Bool := insideAt n false s.changes

/-- Is the character in the set? -/
def contains (s : CharSet) (c : Char) : Bool := s.holds c.toNat

theorem insideAt_cons_of_lt {n change : Nat} {inside : Bool} {changes : List Nat} (h : n < change) :
    insideAt n inside (change :: changes) = inside := if_pos h

theorem insideAt_cons_of_le {n change : Nat} {inside : Bool} {changes : List Nat} (h : change ≤ n) :
    insideAt n inside (change :: changes) = insideAt n (!inside) changes := if_neg (Nat.not_lt.mpr h)

/-- Below all changes nothing changes. -/
theorem insideAt_of_lt {n : Nat} {inside : Bool} {changes : List Nat} (h : ∀ m ∈ changes, n < m) :
    insideAt n inside changes = inside := by
  cases changes with
  | nil => rfl
  | cons m rest => exact if_pos (h m List.mem_cons_self)

/-! ## Combining sets -/

/-- A change at `n` in front of later ones, if there is one. -/
def consChange (n : Nat) (before after : Bool) (changes : List Nat) : List Nat :=
  if before = after then changes else n :: changes

/-- The changes of a combination, from a place on below which the sets are as `a` and `b` say. -/
def merge (f : Bool → Bool → Bool) (a b : Bool) : List Nat → List Nat → List Nat
  | [], [] => []
  | m :: s, [] => consChange m (f a b) (f (!a) b) (merge f (!a) b s [])
  | [], n :: t => consChange n (f a b) (f a (!b)) (merge f a (!b) [] t)
  | m :: s, n :: t =>
    if m < n then consChange m (f a b) (f (!a) b) (merge f (!a) b s (n :: t))
    else if n < m then consChange n (f a b) (f a (!b)) (merge f a (!b) (m :: s) t)
    else consChange m (f a b) (f (!a) (!b)) (merge f (!a) (!b) s t)
termination_by s t => s.length + t.length

theorem mem_consChange {n k : Nat} {before after : Bool} {changes : List Nat}
    (h : k ∈ consChange n before after changes) : k = n ∨ k ∈ changes := by
  unfold consChange at h
  split at h
  · exact Or.inr h
  · exact List.mem_cons.mp h

/-- Merging makes no new changes. -/
theorem mem_merge {f : Bool → Bool → Bool} {a b : Bool} {s t : List Nat} {k : Nat}
    (h : k ∈ merge f a b s t) : k ∈ s ∨ k ∈ t := by
  fun_induction merge f a b s t with
  | case1 => simp at h
  | case2 a b m s ih => rcases mem_consChange h with rfl | h <;> grind
  | case3 a b n t ih => rcases mem_consChange h with rfl | h <;> grind
  | case4 a b m s n t _ ih => rcases mem_consChange h with rfl | h <;> grind
  | case5 a b m s n t _ _ ih => rcases mem_consChange h with rfl | h <;> grind
  | case6 a b m s n t _ _ ih => rcases mem_consChange h with rfl | h <;> grind

theorem isAscending_consChange {n : Nat} {before after : Bool} {changes : List Nat}
    (hlt : ∀ k ∈ changes, n < k) (h : isAscending changes = true) :
    isAscending (consChange n before after changes) = true := by
  unfold consChange
  split
  · exact h
  · exact isAscending_cons hlt h

/-- Merging keeps the order. -/
theorem isAscending_merge {f : Bool → Bool → Bool} {a b : Bool} {s t : List Nat}
    (hs : isAscending s = true) (ht : isAscending t = true) : isAscending (merge f a b s t) = true := by
  fun_induction merge f a b s t with
  | case1 => rfl
  | case2 a b m s ih =>
    refine isAscending_consChange (fun k hk => ?_) (ih (isAscending_tail hs) ht)
    rcases mem_merge hk with hk | hk
    · exact lt_of_isAscending hs k hk
    · simp at hk
  | case3 a b n t ih =>
    refine isAscending_consChange (fun k hk => ?_) (ih hs (isAscending_tail ht))
    rcases mem_merge hk with hk | hk
    · simp at hk
    · exact lt_of_isAscending ht k hk
  | case4 a b m s n t hmn ih =>
    refine isAscending_consChange (fun k hk => ?_) (ih (isAscending_tail hs) ht)
    rcases mem_merge hk with hk | hk
    · exact lt_of_isAscending hs k hk
    · rcases List.mem_cons.mp hk with rfl | hk
      · exact hmn
      · exact Nat.lt_trans hmn (lt_of_isAscending ht k hk)
  | case5 a b m s n t _ hnm ih =>
    refine isAscending_consChange (fun k hk => ?_) (ih hs (isAscending_tail ht))
    rcases mem_merge hk with hk | hk
    · rcases List.mem_cons.mp hk with rfl | hk
      · exact hnm
      · exact Nat.lt_trans hnm (lt_of_isAscending hs k hk)
    · exact lt_of_isAscending ht k hk
  | case6 a b m s n t hmn hnm ih =>
    refine isAscending_consChange (fun k hk => ?_) (ih (isAscending_tail hs) (isAscending_tail ht))
    rcases mem_merge hk with hk | hk
    · exact lt_of_isAscending hs k hk
    · have := lt_of_isAscending ht k hk
      omega

/-- The code points for which `f` holds of the memberships in both sets. It must not hold of points in
neither. -/
def combine (f : Bool → Bool → Bool) (s t : CharSet) : CharSet :=
  ⟨merge f false false s.changes t.changes, isAscending_merge s.isAscending_changes t.isAscending_changes⟩

/-! ### Membership in a combination -/

/-- From its place on a change has been made. -/
theorem insideAt_consChange_of_le {n k : Nat} {before after : Bool} {changes : List Nat} (h : n ≤ k) :
    insideAt k before (consChange n before after changes) = insideAt k after changes := by
  unfold consChange
  split
  · rename_i heq
    rw [heq]
  · rename_i hne
    rw [insideAt_cons_of_le h, Bool.not_eq.mpr hne]

/-- Below its place a change has not been made yet. -/
theorem insideAt_consChange_of_lt {n k : Nat} {before after : Bool} {changes : List Nat} (h : k < n)
    (hlt : ∀ m ∈ changes, n < m) : insideAt k before (consChange n before after changes) = before := by
  refine insideAt_of_lt fun m hm => ?_
  rcases mem_consChange hm with rfl | hm
  · exact h
  · exact Nat.lt_trans h (hlt m hm)

/-- The merged changes give the combined membership. -/
theorem insideAt_merge {f : Bool → Bool → Bool} {a b : Bool} {s t : List Nat} (k : Nat)
    (hs : isAscending s = true) (ht : isAscending t = true) :
    insideAt k (f a b) (merge f a b s t) = f (insideAt k a s) (insideAt k b t) := by
  fun_induction merge f a b s t with
  | case1 => rfl
  | case2 a b m s ih =>
    have hlater : ∀ n ∈ merge f (!a) b s [], m < n := fun n hn => by
      rcases mem_merge hn with hn | hn
      · exact lt_of_isAscending hs n hn
      · simp at hn
    rcases Nat.lt_or_ge k m with hk | hk
    · rw [insideAt_consChange_of_lt hk hlater, insideAt_cons_of_lt hk, insideAt]
    · rw [insideAt_consChange_of_le hk, ih (isAscending_tail hs) ht, insideAt_cons_of_le hk]
  | case3 a b n t ih =>
    have hlater : ∀ m ∈ merge f a (!b) [] t, n < m := fun m hm => by
      rcases mem_merge hm with hm | hm
      · simp at hm
      · exact lt_of_isAscending ht m hm
    rcases Nat.lt_or_ge k n with hk | hk
    · rw [insideAt_consChange_of_lt hk hlater, insideAt_cons_of_lt hk, insideAt]
    · rw [insideAt_consChange_of_le hk, ih hs (isAscending_tail ht), insideAt_cons_of_le hk]
  | case4 a b m s n t hmn ih =>
    have hlater : ∀ l ∈ merge f (!a) b s (n :: t), m < l := fun l hl => by
      rcases mem_merge hl with hl | hl
      · exact lt_of_isAscending hs l hl
      · rcases List.mem_cons.mp hl with rfl | hl
        · exact hmn
        · exact Nat.lt_trans hmn (lt_of_isAscending ht l hl)
    rcases Nat.lt_or_ge k m with hk | hk
    · rw [insideAt_consChange_of_lt hk hlater, insideAt_cons_of_lt hk,
        insideAt_cons_of_lt (Nat.lt_trans hk hmn)]
    · rw [insideAt_consChange_of_le hk, ih (isAscending_tail hs) ht, insideAt_cons_of_le hk]
  | case5 a b m s n t _ hnm ih =>
    have hlater : ∀ l ∈ merge f a (!b) (m :: s) t, n < l := fun l hl => by
      rcases mem_merge hl with hl | hl
      · rcases List.mem_cons.mp hl with rfl | hl
        · exact hnm
        · exact Nat.lt_trans hnm (lt_of_isAscending hs l hl)
      · exact lt_of_isAscending ht l hl
    rcases Nat.lt_or_ge k n with hk | hk
    · rw [insideAt_consChange_of_lt hk hlater, insideAt_cons_of_lt hk,
        insideAt_cons_of_lt (Nat.lt_trans hk hnm)]
    · rw [insideAt_consChange_of_le hk, ih hs (isAscending_tail ht), insideAt_cons_of_le hk]
  | case6 a b m s n t hmn hnm ih =>
    obtain rfl : m = n := Nat.le_antisymm (Nat.not_lt.mp hnm) (Nat.not_lt.mp hmn)
    have hlater : ∀ l ∈ merge f (!a) (!b) s t, m < l := fun l hl => by
      rcases mem_merge hl with hl | hl
      · exact lt_of_isAscending hs l hl
      · exact lt_of_isAscending ht l hl
    rcases Nat.lt_or_ge k m with hk | hk
    · rw [insideAt_consChange_of_lt hk hlater, insideAt_cons_of_lt hk, insideAt_cons_of_lt hk]
    · rw [insideAt_consChange_of_le hk, ih (isAscending_tail hs) (isAscending_tail ht),
        insideAt_cons_of_le hk, insideAt_cons_of_le hk]

/-- A combination holds a character as `f` says of the memberships in the two sets. -/
theorem contains_combine {f : Bool → Bool → Bool} (h : f false false = false) (s t : CharSet) (c : Char) :
    (combine f s t).contains c = f (s.contains c) (t.contains c) := by
  have hmerge := insideAt_merge (f := f) (a := false) (b := false) c.toNat s.isAscending_changes
    t.isAscending_changes
  rw [h] at hmerge
  exact hmerge

/-! ## Building sets -/

/-- No character. -/
def empty : CharSet := ⟨[], rfl⟩

/-- All characters. -/
def all : CharSet := ⟨[0], rfl⟩

/-- The characters from one code point on. -/
def above (first : Nat) : CharSet := ⟨[first], rfl⟩

/-- The characters in one of the sets. -/
def union (s t : CharSet) : CharSet := combine (fun a b => a || b) s t

/-- The characters in both sets. -/
def inter (s t : CharSet) : CharSet := combine (fun a b => a && b) s t

/-- The characters in the first set and not in the second. -/
def diff (s t : CharSet) : CharSet := combine (fun a b => a && !b) s t

/-- The characters in exactly one of the sets. -/
def symmDiff (s t : CharSet) : CharSet := combine (fun a b => a != b) s t

/-- The characters not in the set. -/
def compl (s : CharSet) : CharSet := all.diff s

/-- The set, or its complement. -/
def negateIf (negated : Bool) (s : CharSet) : CharSet := if negated then s.compl else s

/-- The code points from `first` to `last`. There is none beyond the last of all code points. -/
def between (first last : Nat) : CharSet :=
  if last < 0x10FFFF then (above first).diff (above (last + 1)) else above first

/-- The characters from `first` to `last`. -/
def range (first last : Char) : CharSet := between first.toNat last.toNat

/-- One character. -/
def single (a : Char) : CharSet := ⟨[a.toNat, a.toNat + 1], by simp [isAscending]⟩

/-- The characters in any of the sets. -/
def unions (sets : List CharSet) : CharSet := sets.foldr union empty

/-- The character of the set, if it has exactly one. -/
def single? (s : CharSet) : Option Char :=
  match s.changes with
  | [m, n] => if n = m + 1 then some (Char.ofNat m) else none
  | _ => none

/-- The set with a code point more. -/
def insert (s : CharSet) (n : Nat) : CharSet := if s.holds n then s else s.union (between n n)

/-- The characters that differ from one of the set at most in case. First what the members fold to is added,
then all that folds to a member. -/
def caseless (s : CharSet) : CharSet :=
  let folded := Unicode.foldings.foldl (fun t (n, target) => if t.holds n then t.insert target else t) s
  Unicode.foldings.foldl (fun t (n, target) => if folded.holds target then t.insert n else t) folded

/-- As `caseless`, but only the ASCII letters have a second case. -/
def asciiCaseless (s : CharSet) : CharSet :=
  (List.range 26).foldl (fun t k =>
    if s.holds (0x41 + k) || s.holds (0x61 + k) then (t.insert (0x41 + k)).insert (0x61 + k) else t) s

/-- Is no character beyond ASCII in the set? -/
def isAscii (s : CharSet) : Bool := s.inter (above 0x80) = empty

/-! ## Named classes -/

/-- The changes of sorted ranges. -/
def rangeChanges (ranges : Unicode.Ranges) : List Nat := ranges.flatMap fun (first, last) => [first, last + 1]

/-- The decimal digits of all scripts. -/
def decimals : CharSet := ⟨rangeChanges Unicode.decimalRanges, by decide +kernel⟩

/-- White space of any kind. -/
def blanks : CharSet := ⟨rangeChanges Unicode.blankRanges, by decide +kernel⟩

/-- The word characters of all scripts. -/
def wordChars : CharSet := ⟨rangeChanges Unicode.wordRanges, by decide +kernel⟩

/-- The classes that have a letter of their own. -/
inductive Shorthand
  | digit
  | space
  | word
deriving DecidableEq, Repr

/-- The classes that have a name in brackets. They hold ASCII characters only. -/
inductive AsciiClass
  | alnum
  | alpha
  | ascii
  | blank
  | cntrl
  | digit
  | graph
  | lower
  | print
  | punct
  | space
  | upper
  | word
  | xdigit
deriving DecidableEq, Repr

/-- The class of the given name. -/
def AsciiClass.ofName? (name : Text) : Option AsciiClass :=
  [("alnum", alnum), ("alpha", alpha), ("ascii", ascii), ("blank", blank), ("cntrl", cntrl), ("digit", digit),
    ("graph", graph), ("lower", lower), ("print", print), ("punct", punct), ("space", space),
    ("upper", upper), ("word", word), ("xdigit", xdigit)].findSome? fun (n, named) =>
      if n.toList = name then some named else none

/-- The members of a named class. -/
def ofAsciiClass : AsciiClass → CharSet
  | .alnum => unions [range '0' '9', range 'A' 'Z', range 'a' 'z']
  | .alpha => unions [range 'A' 'Z', range 'a' 'z']
  | .ascii => between 0 0x7F
  | .blank => unions [single '\t', single ' ']
  | .cntrl => unions [between 0 0x1F, between 0x7F 0x7F]
  | .digit => range '0' '9'
  | .graph => range '!' '~'
  | .lower => range 'a' 'z'
  | .print => range ' ' '~'
  | .punct => unions [range '!' '/', range ':' '@', range '[' (Char.ofNat 0x60), between 0x7B 0x7E]
  | .space => unions [range '\t' '\r', single ' ']
  | .upper => range 'A' 'Z'
  | .word => unions [range '0' '9', range 'A' 'Z', single '_', range 'a' 'z']
  | .xdigit => unions [range '0' '9', range 'A' 'F', range 'a' 'f']

/-- The class, taken from all of Unicode or from ASCII alone. -/
def ofShorthand (unicode : Bool) : Shorthand → CharSet
  | .digit => if unicode then decimals else ofAsciiClass .digit
  | .space => if unicode then blanks else ofAsciiClass .space
  | .word => if unicode then wordChars else ofAsciiClass .word

end CharSet

end PathTemplate.Regex
