/-
# PathTemplate.Proofs.Regex.Plan — a plan has the ways of its expression.

Writing out repetitions and numbering choice points does not change what can be matched. The points themselves
are laid out so that each is passed with one and the same rest to match: `sites` lists for every point what is
still to be done when a thread comes to it, and `laidOut_plan` says that no point is listed with two
different rests, although the first turn of a loop and the later ones share their points.
-/
import PathTemplate.Proofs.Regex.Ways

namespace PathTemplate.Regex

namespace Plan

/-! ## The ways of a plan -/

/-- The ways in which a plan matches. -/
def ways : Plan → Ways
  | empty => .nothing
  | set s => .character s.contains
  | anchor a => .anchor a
  | seq first second => first.ways.andThen second.ways
  | choice _ first second => first.ways.either second.ways
  | loop _ _ body => body.ways.times fun _ => True
  | named name body => .group name body.ways

theorem character_single (c : Char) : Ways.character (CharSet.single c).contains = .text [c] := by
  have hcontains (d : Char) : (CharSet.single c).contains d = true ↔ d = c := by
    simp only [CharSet.contains, CharSet.holds, CharSet.single, CharSet.insideAt]
    rw [← Char.toNat_inj]
    split
    · simp
      omega
    · split
      · simp
        omega
      · simp
        omega
  apply Ways.ext
  intro before taken after marks
  simp only [Ways.character, Ways.text, hcontains]
  constructor
  · rintro ⟨⟨d, rfl, rfl⟩, rfl⟩
    exact ⟨rfl, rfl⟩
  · rintro ⟨rfl, rfl⟩
    exact ⟨⟨c, rfl, rfl⟩, rfl⟩

theorem ways_chars (t : Text) : (chars t).ways = .text t := by
  induction t with
  | nil => rfl
  | cons c t ih => rw [chars, ways, ways, character_single, ih, Ways.text_andThen_text, List.singleton_append]

theorem ways_optional (point : Nat) (greedy : Bool) (part : Plan) :
    (optional point greedy part).ways = part.ways.either .nothing := by
  unfold optional
  cases greedy
  · exact Ways.either_comm _ _
  · rfl

section Repetition

variable {body : Nat → Plan} {W : Ways} (hbody : ∀ next, (body next).ways = W)

include hbody

theorem ways_times (width next count : Nat) : (times body width next count).ways = W.power count := by
  induction count generalizing next with
  | zero => rfl
  | succ count ih => rw [times, ways, hbody, ih, Ways.power_succ]

theorem ways_upTo (width next : Nat) (greedy : Bool) (count : Nat) :
    (upTo body width next greedy count).ways = W.times (· ≤ count) := by
  induction count generalizing next with
  | zero =>
    rw [upTo, ways, Ways.times_congr (q := (· = 0)) fun n => by omega, Ways.times_eq]
    rfl
  | succ count ih =>
    rw [upTo, ways_optional, ways, hbody, ih, Ways.andThen_times, Ways.times_either_nothing]
    apply Ways.times_congr
    intro n
    -- a further turn is one time more than some number that is allowed, or there is none
    constructor
    · rintro (⟨k, hk, rfl⟩ | rfl) <;> omega
    · intro hn
      rcases n with _ | k
      · exact Or.inr rfl
      · exact Or.inl ⟨k, by omega, rfl⟩

theorem ways_onceOrMore (next : Nat) (greedy : Bool) :
    (onceOrMore body next greedy).ways = W.times (1 ≤ ·) := by
  rw [onceOrMore, ways, ways, hbody, Ways.andThen_times]
  apply Ways.times_congr
  intro n
  constructor
  · rintro ⟨k, _, rfl⟩
    omega
  · intro hn
    exact ⟨n - 1, trivial, by omega⟩

end Repetition

end Plan

/-- A plan has the ways of its expression. -/
theorem ways_plan (r : Regex) (next : Nat) : (r.plan next).ways = r.ways := by
  induction r generalizing next with
  | empty => rfl
  | literal t => exact Plan.ways_chars t
  | set s => rfl
  | anchor a => rfl
  | seq first second ihf ihs => rw [plan, Plan.ways, ihf, ihs, ways]
  | alt first second ihf ihs => rw [plan, Plan.ways, ihf, ihs, ways]
  -- the cases are those in which a repetition is laid out differently
  | repeated body least most greedy ih =>
    cases most with
    | some most =>
      rw [plan, Plan.ways, Plan.ways_times ih, Plan.ways_upTo ih, ← Ways.times_eq, Ways.times_andThen_times,
        ways]
      apply Ways.times_congr
      intro n
      simp only [Allowed, Option.some.injEq, forall_eq']
      constructor
      · rintro ⟨i, j, rfl, hj, rfl⟩
        omega
      · intro hn
        exact ⟨least, n - least, rfl, by omega, by omega⟩
    | none =>
      cases least with
      | zero =>
        show (if body.takesText then Plan.loop next greedy (body.plan (next + 1))
          else .optional next greedy (.onceOrMore (body.plan ·) (next + 1) greedy)).ways = _
        split
        · rw [Plan.ways, ih, ways]
          apply Ways.times_congr
          intro n
          simp [Allowed]
        · rw [Plan.ways_optional, Plan.ways_onceOrMore ih, Ways.times_either_nothing, ways]
          apply Ways.times_congr
          intro n
          simp only [Allowed, reduceCtorEq, false_imp_iff, implies_true, and_true]
          omega
      | succ least =>
        rw [plan, Plan.ways, Plan.ways_times ih, Plan.ways_onceOrMore ih, ← Ways.times_eq,
          Ways.times_andThen_times, ways]
        apply Ways.times_congr
        intro n
        simp only [Allowed, reduceCtorEq, false_imp_iff, implies_true, and_true]
        constructor
        · rintro ⟨i, j, rfl, hj, rfl⟩
          omega
        · intro hn
          exact ⟨least, n - least, rfl, by omega, by omega⟩
  | numbered number body ih => exact ih next
  | named name body ih => rw [plan, Plan.ways, ih, ways]

/-! ## Choice points and what follows them -/

namespace Plan

/-- The choice points of a plan, each with what is to be done when a thread comes to it, if `todo` is to be
done after the plan. -/
def sites : Plan → List Task → List (Nat × List Task)
  | empty, _ => []
  | set _, _ => []
  | anchor _, _ => []
  | seq first second, todo => first.sites (.go second :: todo) ++ second.sites todo
  | choice point first second, todo =>
    (point, .go (choice point first second) :: todo) :: (first.sites todo ++ second.sites todo)
  | loop point greedy body, todo =>
    (point, .go (loop point greedy body) :: todo) :: body.sites (.go (loop point greedy body) :: todo)
  | named name body, todo => body.sites (.leave name :: todo)

end Plan

/-- All points lie in a range of numbers, and none of them is there with two different rests. -/
structure LaidOut (low high : Nat) (sites : List (Nat × List Task)) : Prop where
  low_le : ∀ s ∈ sites, low ≤ s.1
  lt_high : ∀ s ∈ sites, s.1 < high
  unique : ∀ s ∈ sites, ∀ s' ∈ sites, s.1 = s'.1 → s = s'

namespace LaidOut

variable {low mid high : Nat} {first second : List (Nat × List Task)}

theorem nil (low high : Nat) : LaidOut low high [] where
  low_le := by simp
  lt_high := by simp
  unique := by simp

theorem of_subset (h : LaidOut low high second) (hsub : first ⊆ second) : LaidOut low high first where
  low_le s hs := h.low_le s (hsub hs)
  lt_high s hs := h.lt_high s (hsub hs)
  unique s hs s' hs' := h.unique s (hsub hs) s' (hsub hs')

/-- Ranges one after another. -/
theorem append (hfirst : LaidOut low mid first) (hsecond : LaidOut mid high second) (hlow : low ≤ mid)
    (hhigh : mid ≤ high) : LaidOut low high (first ++ second) where
  low_le s hs := by
    rcases List.mem_append.1 hs with hs | hs
    · exact hfirst.low_le s hs
    · exact Nat.le_trans hlow (hsecond.low_le s hs)
  lt_high s hs := by
    rcases List.mem_append.1 hs with hs | hs
    · exact Nat.lt_of_lt_of_le (hfirst.lt_high s hs) hhigh
    · exact hsecond.lt_high s hs
  unique s hs s' hs' heq := by
    rcases List.mem_append.1 hs with hs | hs <;> rcases List.mem_append.1 hs' with hs' | hs'
    · exact hfirst.unique s hs s' hs' heq
    · have := hfirst.lt_high s hs
      have := hsecond.low_le s' hs'
      omega
    · have := hfirst.lt_high s' hs'
      have := hsecond.low_le s hs
      omega
    · exact hsecond.unique s hs s' hs' heq

/-- One point and then a range. -/
theorem cons (todo : List Task) (h : LaidOut (low + 1) high first) (hlt : low < high) :
    LaidOut low high ((low, todo) :: first) := by
  have hone : LaidOut low (low + 1) [(low, todo)] :=
    ⟨by simp, by simp, by simp⟩
  exact hone.append h (Nat.le_succ low) hlt

end LaidOut

namespace Plan

theorem sites_chars (t : Text) (todo : List Task) : (chars t).sites todo = [] := by
  induction t generalizing todo with
  | nil => rfl
  | cons c t ih => rw [chars, sites, sites, ih, List.append_nil]

theorem laidOut_optional {next high : Nat} {part : Plan} (greedy : Bool) {todo : List Task}
    (h : LaidOut (next + 1) high (part.sites todo)) (hlt : next < high) :
    LaidOut next high ((optional next greedy part).sites todo) := by
  unfold optional
  cases greedy
  · exact LaidOut.cons _ h hlt
  · refine LaidOut.cons _ ?_ hlt
    rw [sites.eq_1, List.append_nil]
    exact h

section Repetition

variable {body : Nat → Plan} {width : Nat}
  (hbody : ∀ next todo, LaidOut next (next + width) ((body next).sites todo))

include hbody

theorem laidOut_times (next count : Nat) (todo : List Task) :
    LaidOut next (next + count * width) ((times body width next count).sites todo) := by
  induction count generalizing next todo with
  | zero => exact LaidOut.nil _ _
  | succ count ih =>
    have hrest := ih (next + width) todo
    have hend : next + width + count * width = next + (count + 1) * width := by
      rw [Nat.succ_mul]
      omega
    rw [hend] at hrest
    refine (hbody next _).append hrest (Nat.le_add_right _ _) ?_
    omega

theorem laidOut_upTo (next : Nat) (greedy : Bool) (count : Nat) (todo : List Task) :
    LaidOut next (next + count * (width + 1)) ((upTo body width next greedy count).sites todo) := by
  induction count generalizing next todo with
  | zero => exact LaidOut.nil _ _
  | succ count ih =>
    have hrest := ih (next + 1 + width) todo
    have hend : next + 1 + width + count * (width + 1) = next + (count + 1) * (width + 1) := by
      rw [Nat.succ_mul]
      omega
    rw [hend] at hrest
    refine laidOut_optional greedy ?_ (by omega)
    exact (hbody (next + 1) _).append hrest (Nat.le_add_right _ _) (by omega)

theorem laidOut_onceOrMore (next : Nat) (greedy : Bool) (todo : List Task) :
    LaidOut next (next + 1 + width) ((onceOrMore body next greedy).sites todo) := by
  -- The first turn comes to the loop just as every later turn does, so its points have the same rests.
  have hloop : LaidOut next (next + 1 + width) ((loop next greedy (body (next + 1))).sites todo) :=
    LaidOut.cons _ (hbody (next + 1) _) (by omega)
  apply hloop.of_subset
  intro s hs
  rcases List.mem_append.1 hs with hs | hs
  · exact List.mem_cons_of_mem _ hs
  · exact hs

end Repetition

end Plan

/-- The points of a plan are laid out from the first number on. -/
theorem laidOut_plan (r : Regex) (next : Nat) (todo : List Task) :
    LaidOut next (next + r.points) ((r.plan next).sites todo) := by
  induction r generalizing next todo with
  | empty => exact LaidOut.nil _ _
  | literal t =>
    rw [plan, Plan.sites_chars]
    exact LaidOut.nil _ _
  | set s => exact LaidOut.nil _ _
  | anchor a => exact LaidOut.nil _ _
  | seq first second ihf ihs =>
    have hsecond := ihs (next + first.points) todo
    rw [Nat.add_assoc] at hsecond
    exact (ihf next _).append hsecond (Nat.le_add_right _ _) (by rw [points]; omega)
  | alt first second ihf ihs =>
    have hsecond := ihs (next + 1 + first.points) todo
    have hend : next + 1 + first.points + second.points = next + (alt first second).points := by
      rw [points]
      omega
    rw [hend] at hsecond
    refine LaidOut.cons _ ?_ (by rw [points]; omega)
    exact (ihf (next + 1) todo).append hsecond (Nat.le_add_right _ _) (by omega)
  | repeated body least most greedy ih =>
    cases most with
    | some most =>
      have hrest := Plan.laidOut_upTo ih (next + least * body.points) greedy (most - least) todo
      rw [Nat.add_assoc] at hrest
      rw [points]
      exact (Plan.laidOut_times ih next least _).append hrest (Nat.le_add_right _ _) (by omega)
    | none =>
      cases least with
      | zero =>
        rw [plan, points]
        dsimp only
        split
        · have hturn := ih (next + 1) (.go (.loop next greedy (body.plan (next + 1))) :: todo)
          rw [Nat.add_assoc, Nat.add_comm 1] at hturn
          exact LaidOut.cons _ hturn (by omega)
        · refine Plan.laidOut_optional greedy ?_ (by omega)
          have hmore := Plan.laidOut_onceOrMore ih (next + 1) greedy todo
          have hend : next + 1 + 1 + body.points = next + (body.points + 2) := by omega
          rw [hend] at hmore
          exact hmore
      | succ least =>
        have hmore := Plan.laidOut_onceOrMore ih (next + least * body.points) greedy todo
        have hend : next + least * body.points + 1 + body.points =
            next + (repeated body (least + 1) none greedy).points := by
          rw [points, Nat.succ_mul]
          omega
        rw [hend] at hmore
        exact (Plan.laidOut_times ih next least _).append hmore (Nat.le_add_right _ _) (by omega)
  | numbered number body ih => exact ih next todo
  | named name body ih => exact ih next _

end PathTemplate.Regex
