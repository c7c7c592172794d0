/-
# PathTemplate.Regex.Search — looking for a match.

A search follows threads. A thread has come to some place of the text and knows what is still to be matched
from there. At a choice point it splits in two, and the less preferred way waits until the other one and all
that came of it have failed; so the first thread that finishes gives the preferred match.

No choice point is passed twice at the same place. A second thread there has the same left to match as the
first, which has failed or is still going round a loop without taking text, and could only repeat it. This is
why a search ends, and why it takes no more steps than the size of the plan times that of the text allows.
-/
import PathTemplate.Regex.Plan

namespace PathTemplate.Regex

/-- What a match leaves behind when it goes through a named group: the place where it enters the group, and the
place where it leaves it. -/
inductive Mark
  | entered (name : Text) (place : Nat)
  | left (name : Text) (place : Nat)
deriving DecidableEq, Repr

/-- What a thread has before it: a plan to match, or the end of a group. -/
inductive Task
  | go (plan : Plan)
  | leave (name : Text)

/-- A match that has come to a place: what is still to be done, and the marks so far, the latest first. -/
structure Thread where
  todo : List Task
  place : Nat
  marks : List Mark

/-! ## One step -/

/-- Does the anchor hold at a place of the text? -/
def Anchor.holdsAt (a : Anchor) (text : Array Char) (i : Nat) : Bool :=
  a.holds (if i = 0 then none else text[i - 1]?) text[i]?

/-- What becomes of a thread in one step. -/
inductive Step
  | failed
  | finished (marks : List Mark)
  | next (t : Thread)
  /-- The thread splits; the first way is preferred. -/
  | split (point : Nat) (first second : Thread)

/-- The next step of a thread. -/
def Thread.step (text : Array Char) (t : Thread) : Step :=
  match t.todo with
  | [] => .finished t.marks
  | .leave name :: todo => .next ⟨todo, t.place, .left name t.place :: t.marks⟩
  | .go .empty :: todo => .next ⟨todo, t.place, t.marks⟩
  | .go (.set s) :: todo =>
    match text[t.place]? with
    | some c => if s.contains c then .next ⟨todo, t.place + 1, t.marks⟩ else .failed
    | none => .failed
  | .go (.anchor a) :: todo =>
    if a.holdsAt text t.place then .next ⟨todo, t.place, t.marks⟩ else .failed
  | .go (.seq first second) :: todo => .next ⟨.go first :: .go second :: todo, t.place, t.marks⟩
  | .go (.choice point first second) :: todo =>
    .split point ⟨.go first :: todo, t.place, t.marks⟩ ⟨.go second :: todo, t.place, t.marks⟩
  | .go (.loop point greedy body) :: todo =>
    let again := ⟨.go body :: .go (.loop point greedy body) :: todo, t.place, t.marks⟩
    let enough := ⟨todo, t.place, t.marks⟩
    if greedy then .split point again enough else .split point enough again
  | .go (.named name body) :: todo =>
    .next ⟨.go body :: .leave name :: todo, t.place, .entered name t.place :: t.marks⟩

/-! ## The search

The measure of a search is the number of choices not yet made, and then the weight of the threads, which every
step but a split makes smaller. -/

/-- The steps that a plan takes at most between two choices. -/
def Plan.weight : Plan → Nat
  | empty => 1
  | set _ => 1
  | anchor _ => 1
  | seq first second => first.weight + second.weight + 1
  | choice .. => 1
  | loop .. => 1
  | named _ body => body.weight + 2

/-- The steps that a task takes at most before the next choice. -/
def Task.weight : Task → Nat
  | go plan => plan.weight
  | leave _ => 1

/-- The steps that a thread takes at most before the next choice, the end among them. -/
def Thread.weight (t : Thread) : Nat := t.todo.foldr (fun task n => task.weight + n) 1

/-- The weight of all threads. -/
def totalWeight (threads : List Thread) : Nat := threads.foldr (fun t n => t.weight + n) 0

/-- The end of a thread weighs something too. -/
theorem Thread.weight_pos (t : Thread) : 0 < t.weight := by
  obtain ⟨todo, place, marks⟩ := t
  induction todo with
  | nil => exact Nat.one_pos
  | cons task todo ih => exact Nat.add_pos_right _ ih

/-- A thread more makes the threads heavier. -/
theorem totalWeight_lt_cons (t : Thread) (waiting : List Thread) :
    totalWeight waiting < totalWeight (t :: waiting) :=
  Nat.lt_add_of_pos_left t.weight_pos

/-- A step that does not split a thread makes it lighter. -/
theorem Thread.weight_lt_of_step {text : Array Char} {t t' : Thread} (h : t.step text = .next t') :
    t'.weight < t.weight := by
  obtain ⟨todo, place, marks⟩ := t
  fun_cases Thread.step text ⟨todo, place, marks⟩ <;> simp_all [Thread.step] <;>
    grind [Thread.weight, Task.weight, Plan.weight]

/-- The place of a choice among all of them: its point, and the place of the text where it is made. -/
def cell (text : Array Char) (point place : Nat) : Nat := point * (text.size + 1) + place

/-- Making a choice leaves fewer that can be made. -/
theorem count_setIfInBounds_lt {made : Array Bool} {i : Nat} (h : made[i]? = some false) :
    (made.setIfInBounds i true).count false < made.count false := by
  obtain ⟨hi, hfalse⟩ := Array.getElem?_eq_some_iff.1 h
  have hpos : 0 < made.count false := Array.count_pos_iff.2 (hfalse ▸ Array.getElem_mem hi)
  have hset : (made.set i true hi).count false = made.count false - 1 := by
    rw [Array.count_set hi, hfalse]
    rfl
  rw [Array.setIfInBounds_def, dif_pos hi, hset]
  omega

/-- The marks of the preferred match, the latest first, if a thread comes to an end. The earlier threads are
preferred; `made` tells which choices have been made. -/
def search (text : Array Char) (made : Array Bool) : List Thread → Option (List Mark)
  | [] => none
  | t :: waiting =>
    match _h : t.step text with
    | .failed => search text made waiting
    | .finished marks => some marks
    | .next t' => search text made (t' :: waiting)
    | .split point first second =>
      if _hmade : made[cell text point t.place]? = some false then
        search text (made.setIfInBounds (cell text point t.place) true) (first :: second :: waiting)
      else search text made waiting
termination_by threads => (made.count false, totalWeight threads)
decreasing_by
  · exact Prod.Lex.right _ (totalWeight_lt_cons t waiting)
  · exact Prod.Lex.right _ (Nat.add_lt_add_right (Thread.weight_lt_of_step _h) _)
  · exact Prod.Lex.left _ _ (count_setIfInBounds_lt _hmade)
  · exact Prod.Lex.right _ (totalWeight_lt_cons t waiting)

end PathTemplate.Regex
