/-
# PathTemplate.Proofs.Regex.Ways — what it means that an expression matches.

An expression can match a stretch of text in a number of ways. A way depends on the stretch itself and, where
the expression has anchors, on the text before and after it, and it leaves marks where it enters and leaves a
named group. `Regex.ways` says by recursion on the expression what its ways are. Nothing is said about which way
is preferred: greed and the order of alternatives make no difference to what can be matched.

Ways can be put one after another, joined and repeated. The laws of these operations are those of a semiring
with powers, and everything that is proved about expressions later on is proved with them.
-/
import PathTemplate.Regex.Search

namespace PathTemplate.Regex

/-- Ways of matching: given the text before, the text taken and the text after, the marks that are left, the
latest first. -/
abbrev Ways := (before taken after : Text) → (marks : List Mark) → Prop

namespace Ways

/-! ## Operations -/

/-- Nothing is taken. -/
def nothing : Ways := fun _ taken _ marks => taken = [] ∧ marks = []

/-- Exactly the given text is taken. -/
def text (t : Text) : Ways := fun _ taken _ marks => taken = t ∧ marks = []

/-- One character with the property is taken. -/
def character (p : Char → Bool) : Ways := fun _ taken _ marks =>
  (∃ c, p c = true ∧ taken = [c]) ∧ marks = []

/-- Nothing is taken, at a place where the anchor holds. -/
def anchor (a : Anchor) : Ways := fun before taken after marks =>
  taken = [] ∧ marks = [] ∧ a.holds before.getLast? after.head? = true

/-- Nothing is taken, and a mark is left. -/
def mark (f : Nat → Mark) : Ways := fun before taken _ marks =>
  taken = [] ∧ marks = [f before.length]

/-- The first ways, then the second ones. -/
def andThen (V W : Ways) : Ways := fun before taken after marks =>
  ∃ u v m n, taken = u ++ v ∧ marks = n ++ m ∧ V before u (v ++ after) m ∧ W (before ++ u) v after n

/-- The ways of both. -/
def either (V W : Ways) : Ways := fun before taken after marks =>
  V before taken after marks ∨ W before taken after marks

/-- The ways a fixed number of times. -/
def power (W : Ways) : Nat → Ways
  | 0 => nothing
  | n + 1 => W.andThen (W.power n)

/-- The ways a number of times that is allowed. -/
def times (W : Ways) (allowed : Nat → Prop) : Ways := fun before taken after marks =>
  ∃ n, allowed n ∧ W.power n before taken after marks

/-- The ways with marks where they begin and end. -/
def group (name : Text) (W : Ways) : Ways := (mark (.entered name)).andThen (W.andThen (mark (.left name)))

variable {U V W : Ways} {before taken after : Text} {marks : List Mark}

/-- Ways are equal if they agree on every stretch. -/
theorem ext (h : ∀ before taken after marks, V before taken after marks ↔ W before taken after marks) :
    V = W := by
  funext before taken after marks
  exact propext (h before taken after marks)

/-! ## Laws of sequence and choice -/

@[simp] theorem text_nil : text [] = nothing := rfl

@[simp] theorem nothing_andThen (W : Ways) : nothing.andThen W = W := by
  apply ext
  intro before taken after marks
  constructor
  · rintro ⟨u, v, m, n, rfl, rfl, ⟨rfl, rfl⟩, h⟩
    simpa using h
  · intro h
    exact ⟨[], taken, [], marks, rfl, by simp, ⟨rfl, rfl⟩, by simpa using h⟩

@[simp] theorem andThen_nothing (W : Ways) : W.andThen nothing = W := by
  apply ext
  intro before taken after marks
  constructor
  · rintro ⟨u, v, m, n, rfl, rfl, h, ⟨rfl, rfl⟩⟩
    simpa using h
  · intro h
    exact ⟨taken, [], marks, [], by simp, rfl, by simpa using h, ⟨rfl, rfl⟩⟩

theorem andThen_assoc (U V W : Ways) : (U.andThen V).andThen W = U.andThen (V.andThen W) := by
  apply ext
  intro before taken after marks
  constructor
  · rintro ⟨_, w, _, k, rfl, rfl, ⟨u, v, m, n, rfl, rfl, hU, hV⟩, hW⟩
    refine ⟨u, v ++ w, m, k ++ n, by simp, by simp, by simpa using hU, v, w, n, k, rfl, rfl, hV, ?_⟩
    simpa using hW
  · rintro ⟨u, _, m, _, rfl, rfl, hU, v, w, n, k, rfl, rfl, hV, hW⟩
    refine ⟨u ++ v, w, n ++ m, k, by simp, by simp, ⟨u, v, m, n, rfl, rfl, by simpa using hU, hV⟩, ?_⟩
    simpa using hW

theorem either_andThen (U V W : Ways) :
    (U.either V).andThen W = (U.andThen W).either (V.andThen W) := by
  apply ext
  intro before taken after marks
  constructor
  · rintro ⟨u, v, m, n, rfl, rfl, h | h, hW⟩
    · exact Or.inl ⟨u, v, m, n, rfl, rfl, h, hW⟩
    · exact Or.inr ⟨u, v, m, n, rfl, rfl, h, hW⟩
  · rintro (⟨u, v, m, n, rfl, rfl, h, hW⟩ | ⟨u, v, m, n, rfl, rfl, h, hW⟩)
    · exact ⟨u, v, m, n, rfl, rfl, Or.inl h, hW⟩
    · exact ⟨u, v, m, n, rfl, rfl, Or.inr h, hW⟩

theorem either_comm (V W : Ways) : V.either W = W.either V := by
  apply ext
  intro before taken after marks
  exact or_comm

theorem text_andThen_text (s t : Text) : (text s).andThen (text t) = text (s ++ t) := by
  apply ext
  intro before taken after marks
  constructor
  · rintro ⟨u, v, m, n, rfl, rfl, ⟨rfl, rfl⟩, ⟨rfl, rfl⟩⟩
    exact ⟨rfl, rfl⟩
  · rintro ⟨rfl, rfl⟩
    exact ⟨s, t, [], [], rfl, rfl, ⟨rfl, rfl⟩, ⟨rfl, rfl⟩⟩

/-! ## Laws of repetition -/

theorem power_succ (W : Ways) (n : Nat) : W.power (n + 1) = W.andThen (W.power n) := rfl

theorem power_add (W : Ways) (m n : Nat) : W.power (m + n) = (W.power m).andThen (W.power n) := by
  induction m with
  | zero => rw [Nat.zero_add, power, nothing_andThen]
  | succ m ih => rw [Nat.succ_add, power_succ, power_succ, ih, andThen_assoc]

theorem times_congr {p q : Nat → Prop} (h : ∀ n, p n ↔ q n) : W.times p = W.times q := by
  have hpq : p = q := funext fun n => propext (h n)
  rw [hpq]

theorem times_eq (W : Ways) (k : Nat) : W.times (· = k) = W.power k := by
  apply ext
  intro before taken after marks
  constructor
  · rintro ⟨n, rfl, h⟩
    exact h
  · intro h
    exact ⟨k, rfl, h⟩

/-- A number of times and another number of times are their sum of times. -/
theorem times_andThen_times (W : Ways) (p q : Nat → Prop) :
    (W.times p).andThen (W.times q) = W.times fun n => ∃ i j, p i ∧ q j ∧ n = i + j := by
  apply ext
  intro before taken after marks
  constructor
  · rintro ⟨u, v, m, n, rfl, rfl, ⟨i, hi, hu⟩, ⟨j, hj, hv⟩⟩
    refine ⟨i + j, ⟨i, j, hi, hj, rfl⟩, ?_⟩
    rw [power_add]
    exact ⟨u, v, m, n, rfl, rfl, hu, hv⟩
  · rintro ⟨_, ⟨i, j, hi, hj, rfl⟩, h⟩
    rw [power_add] at h
    obtain ⟨u, v, m, n, rfl, rfl, hu, hv⟩ := h
    exact ⟨u, v, m, n, rfl, rfl, ⟨i, hi, hu⟩, ⟨j, hj, hv⟩⟩

/-- Once and then a number of times is one time more. -/
theorem andThen_times (W : Ways) (p : Nat → Prop) :
    W.andThen (W.times p) = W.times fun n => ∃ k, p k ∧ n = k + 1 := by
  have hone : W = W.times (· = 1) := by
    rw [times_eq, power_succ, power, andThen_nothing]
  calc W.andThen (W.times p) = (W.times (· = 1)).andThen (W.times p) := by rw [← hone]
    _ = W.times fun n => ∃ i j, i = 1 ∧ p j ∧ n = i + j := times_andThen_times W _ p
    _ = W.times fun n => ∃ k, p k ∧ n = k + 1 := by
      apply times_congr
      intro n
      constructor
      · rintro ⟨i, j, rfl, hj, rfl⟩
        exact ⟨j, hj, Nat.add_comm 1 j⟩
      · rintro ⟨k, hk, rfl⟩
        exact ⟨1, k, rfl, hk, Nat.add_comm k 1⟩

/-- Not at all, or a positive number of times. -/
theorem times_either_nothing (W : Ways) (p : Nat → Prop) :
    (W.times p).either nothing = W.times fun n => p n ∨ n = 0 := by
  apply ext
  intro before taken after marks
  constructor
  · rintro (⟨n, hn, h⟩ | h)
    · exact ⟨n, Or.inl hn, h⟩
    · exact ⟨0, Or.inr rfl, h⟩
  · rintro ⟨n, hn | rfl, h⟩
    · exact Or.inl ⟨n, hn, h⟩
    · exact Or.inr h

end Ways

/-! ## The ways of an expression -/

/-- The numbers of times that a repetition allows: `least`, and then further ones up to `most`. -/
def Allowed (least : Nat) (most : Option Nat) (n : Nat) : Prop :=
  least ≤ n ∧ ∀ m, most = some m → n ≤ max least m

/-- The ways in which an expression matches. -/
def ways : Regex → Ways
  | empty => .nothing
  | literal t => .text t
  | set s => .character s.contains
  | anchor a => .anchor a
  | seq first second => first.ways.andThen second.ways
  | alt first second => first.ways.either second.ways
  | repeated body least most _ => body.ways.times (Allowed least most)
  | numbered _ body => body.ways
  | named name body => .group name body.ways

/-- The ways of expressions one after another. -/
def waysAll (rs : List Regex) : Ways := rs.foldr (fun r W => r.ways.andThen W) .nothing

@[simp] theorem waysAll_nil : waysAll [] = .nothing := rfl

@[simp] theorem waysAll_cons (r : Regex) (rs : List Regex) :
    waysAll (r :: rs) = r.ways.andThen (waysAll rs) := rfl

theorem waysAll_append (rs ss : List Regex) : waysAll (rs ++ ss) = (waysAll rs).andThen (waysAll ss) := by
  induction rs with
  | nil => simp
  | cons r rs ih => rw [List.cons_append, waysAll_cons, waysAll_cons, ih, Ways.andThen_assoc]

end PathTemplate.Regex
