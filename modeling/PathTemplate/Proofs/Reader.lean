/-
# PathTemplate.Proofs.Reader — what a reader makes of a text that goes on.

A reader that succeeds may still depend on where the text ends: it may have looked at the next character without
taking it, or taken a run to the very end. `Persists` says that it does not matter if the text goes on with a
given character instead. Readers put together from persistent ones are persistent. A reader that also fails again
where it failed before is `Stable`; where there is an alternative, the reader that is tried first has to be.
-/
import Mathlib.Data.List.TakeWhile
import Mathlib.Data.Option.Basic
import PathTemplate.Reader

namespace PathTemplate.Reader

/-! ## Results -/

/-- The value that is read and the text that is left. -/
def result (x : Reader α) (t : Text) : Option (α × Text) := (x t).map fun (a, rest) => (a, rest.val)

/-- What is left is no longer than the text. -/
theorem length_of_result {x : Reader α} {t rest : Text} {a : α} (h : x.result t = some (a, rest)) :
    rest.length ≤ t.length := by
  obtain ⟨⟨b, remainder⟩, _, heq⟩ := Option.map_eq_some_iff.1 h
  obtain ⟨_, rfl⟩ := Prod.mk.inj heq
  exact remainder.property

@[simp] theorem result_pure (a : α) (t : Text) : (pure a : Reader α).result t = some (a, t) := rfl

@[simp] theorem result_failure (t : Text) : (failure : Reader α).result t = none := rfl

@[simp] theorem result_bind (x : Reader α) (f : α → Reader β) (t : Text) :
    (x >>= f).result t = (x.result t).bind fun (a, rest) => (f a).result rest := by
  show ((x.andThen f) t).map _ = ((x t).map _).bind _
  unfold andThen
  cases x t with
  | none => rfl
  | some found =>
    obtain ⟨a, rest⟩ := found
    simp only [Option.map_some, Option.bind_some, result]
    cases f a rest.val <;> rfl

@[simp] theorem result_orElse (x y : Reader α) (t : Text) :
    (x <|> y).result t = (x.result t).or (y.result t) := by
  show ((x.orElse y) t).map _ = _
  unfold orElse result
  cases x t <;> rfl

@[simp] theorem result_guard (p : Prop) [Decidable p] (t : Text) :
    (guard p : Reader Unit).result t = if p then some ((), t) else none := by
  unfold guard
  split <;> rfl

@[simp] theorem result_next_nil : next.result [] = none := rfl

@[simp] theorem result_next_cons (c : Char) (rest : Text) : next.result (c :: rest) = some (c, rest) := rfl

@[simp] theorem result_peek (t : Text) : peek.result t = some (t.head?, t) := rfl

@[simp] theorem result_skip_nil (c : Char) : (skip c).result [] = some (false, []) := rfl

@[simp] theorem result_skip_cons (c d : Char) (rest : Text) :
    (skip c).result (d :: rest) = if d = c then some (true, rest) else some (false, d :: rest) := by
  simp only [result, skip]
  split <;> rfl

@[simp] theorem result_expect_nil (c : Char) : (expect c).result [] = none := rfl

@[simp] theorem result_expect_cons (c d : Char) (rest : Text) :
    (expect c).result (d :: rest) = if d = c then some ((), rest) else none := by
  unfold expect
  rw [result_bind, result_skip_cons]
  by_cases h : d = c
  · rw [if_pos h, if_pos h]
    rfl
  · rw [if_neg h, if_neg h]
    rfl

@[simp] theorem result_run (p : Char → Bool) (t : Text) :
    (run p).result t = some (t.takeWhile p, t.dropWhile p) := rfl

@[simp] theorem result_lookahead (x : Reader α) (t : Text) :
    (lookahead x).result t = (x.result t).map fun (a, _) => (a, t) := by
  simp only [lookahead, result]
  cases x t <;> rfl

@[simp] theorem result_ofOption_none (t : Text) : (ofOption (none : Option α)).result t = none := rfl

@[simp] theorem result_ofOption_some (a : α) (t : Text) : (ofOption (some a)).result t = some (a, t) := rfl

/-! ## Readers that do not mind what follows -/

/-- A run that stops before the end stops at the same place if the text goes on. -/
theorem dropWhile_append {p : Char → Bool} {t : Text} (h : t.dropWhile p ≠ []) (u : Text) :
    (t ++ u).takeWhile p = t.takeWhile p ∧ (t ++ u).dropWhile p = t.dropWhile p ++ u := by
  induction t with
  | nil => simp at h
  | cons c t ih =>
    rw [List.cons_append, List.takeWhile_cons, List.takeWhile_cons, List.dropWhile_cons, List.dropWhile_cons]
    by_cases hc : p c = true
    · rw [List.dropWhile_cons, if_pos hc] at h
      obtain ⟨htake, hdrop⟩ := ih h
      simp [hc, htake, hdrop]
    · simp [hc]

/-- The result is the same if the text goes on with the character `stop`. -/
def Stable (stop : Char) (x : Reader α) : Prop :=
  ∀ t u, x.result (t ++ stop :: u) = (x.result t).map fun (a, rest) => (a, rest ++ stop :: u)

/-- What is read off a text is read too if the text goes on with the character `stop`. -/
def Persists (stop : Char) (x : Reader α) : Prop :=
  ∀ t a rest, x.result t = some (a, rest) → ∀ u, x.result (t ++ stop :: u) = some (a, rest ++ stop :: u)

namespace Stable

variable {stop : Char} {x : Reader α}

theorem pure (a : α) : (pure a : Reader α).Stable stop := fun _ _ => rfl

theorem failure : (failure : Reader α).Stable stop := fun _ _ => rfl

theorem bind {f : α → Reader β} (hx : x.Stable stop) (hf : ∀ a, (f a).Stable stop) :
    (x >>= f).Stable stop := by
  intro t u
  rw [result_bind, result_bind, hx t u]
  cases x.result t with
  | none => rfl
  | some found => exact hf found.1 found.2 u

theorem skip {c : Char} (hc : stop ≠ c) : (skip c).Stable stop := by
  intro t u
  cases t with
  | nil => simp [hc]
  | cons d t =>
    rw [List.cons_append, result_skip_cons, result_skip_cons]
    split <;> rfl

theorem expect {c : Char} (hc : stop ≠ c) : (expect c).Stable stop := by
  intro t u
  cases t with
  | nil => simp [hc]
  | cons d t =>
    rw [List.cons_append, result_expect_cons, result_expect_cons]
    split <;> rfl

theorem ofOption (o : Option α) : (ofOption o).Stable stop := by
  cases o with
  | none => exact failure
  | some a => exact pure a

/-- A run may take the character `stop` too, if something has to come after the run and nothing is made of a
run that holds that character. -/
theorem run_expect_bind {p : Char → Bool} {c : Char} {f : Text → Reader α} (hp : p stop = true)
    (hc : stop ≠ c) (hf : ∀ name, (f name).Stable stop)
    (hnone : ∀ name, stop ∈ name → ∀ t, (f name).result t = none) :
    (do
      let name ← Reader.run p
      Reader.expect c
      f name).Stable stop := by
  intro t u
  rw [result_bind, result_bind, result_run, result_run, Option.bind_some, Option.bind_some]
  by_cases hdrop : t.dropWhile p = []
  · -- the run goes to the end: then the longer run holds `stop`, and nothing is made of it
    have hmem : stop ∈ (t ++ stop :: u).takeWhile p := by
      rw [List.takeWhile_append_of_pos (List.dropWhile_eq_nil_iff.1 hdrop), List.takeWhile_cons_of_pos hp]
      simp
    rw [hdrop]
    simp only [result_bind, hnone _ hmem]
    simp
  · obtain ⟨htake, hrest⟩ := dropWhile_append hdrop (stop :: u)
    rw [htake, hrest]
    exact bind (expect hc) (fun _ => hf _) _ u

end Stable

namespace Persists

variable {stop : Char} {x : Reader α}

theorem of_stable (hx : x.Stable stop) : x.Persists stop := by
  intro t a rest h u
  rw [hx t u, h]
  rfl

theorem pure (a : α) : (pure a : Reader α).Persists stop := of_stable (.pure a)

theorem failure : (failure : Reader α).Persists stop := of_stable .failure

theorem ofOption (o : Option α) : (ofOption o).Persists stop := of_stable (.ofOption o)

theorem skip {c : Char} (hc : stop ≠ c) : (skip c).Persists stop := of_stable (.skip hc)

theorem bind {f : α → Reader β} (hx : x.Persists stop) (hf : ∀ a, (f a).Persists stop) :
    (x >>= f).Persists stop := by
  intro t b rest h u
  rw [result_bind, Option.bind_eq_some_iff] at h
  obtain ⟨⟨a, middle⟩, ha, hb⟩ := h
  rw [result_bind, hx t a middle ha u]
  exact hf a middle b rest hb u

theorem ite {p : Prop} [Decidable p] {y : Reader α} (hx : x.Persists stop) (hy : y.Persists stop) :
    (if p then x else y).Persists stop := by
  split
  · exact hx
  · exact hy

theorem guard (p : Prop) [Decidable p] : (guard p : Reader Unit).Persists stop := ite (pure ()) failure

theorem next : next.Persists stop := by
  intro t a rest h u
  cases t with
  | nil => simp at h
  | cons c t =>
    rw [result_next_cons] at h
    obtain ⟨rfl, rfl⟩ := Prod.mk.inj (Option.some.inj h)
    rfl

theorem expect (c : Char) : (expect c).Persists stop := by
  intro t a rest h u
  cases t with
  | nil => simp at h
  | cons d t =>
    rw [result_expect_cons] at h
    rw [List.cons_append, result_expect_cons]
    split at h
    · obtain ⟨rfl, rfl⟩ := Prod.mk.inj (Option.some.inj h)
      simp_all
    · simp at h

theorem lookahead (hx : x.Persists stop) : (lookahead x).Persists stop := by
  intro t a rest h u
  rw [result_lookahead, Option.map_eq_some_iff] at h
  obtain ⟨⟨b, middle⟩, hb, heq⟩ := h
  obtain ⟨rfl, rfl⟩ := Prod.mk.inj heq
  rw [result_lookahead, hx t b middle hb u]
  rfl

theorem run {p : Char → Bool} (hp : p stop = false) : (run p).Persists stop := by
  intro t a rest h u
  rw [result_run] at h ⊢
  obtain ⟨rfl, rfl⟩ := Prod.mk.inj (Option.some.inj h)
  by_cases hdrop : t.dropWhile p = []
  · -- the run goes to the end of the text and stops at the character that follows now
    have hall : ∀ c ∈ t, p c = true := List.dropWhile_eq_nil_iff.1 hdrop
    rw [List.takeWhile_append_of_pos hall, List.dropWhile_append_of_pos hall, hdrop,
      List.takeWhile_cons_of_neg (by simp [hp]), List.dropWhile_cons_of_neg (by simp [hp]), List.append_nil,
      List.takeWhile_eq_self_iff.2 hall, List.nil_append]
  · obtain ⟨htake, hrest⟩ := dropWhile_append hdrop (stop :: u)
    rw [htake, hrest]

/-- A run may take the character `stop` itself, if something has to come after the run. -/
theorem run_expect_bind (p : Char → Bool) (c : Char) {f : Text → Reader α} (hf : ∀ name, (f name).Persists stop) :
    (do
      let name ← Reader.run p
      Reader.expect c
      f name).Persists stop := by
  intro t a rest h u
  rw [result_bind, result_run, Option.bind_some] at h ⊢
  have hdrop : t.dropWhile p ≠ [] := by
    intro hnil
    simp [hnil] at h
  obtain ⟨htake, hrest⟩ := dropWhile_append hdrop (stop :: u)
  rw [htake, hrest]
  exact bind (expect c) (fun _ => hf _) _ a rest h u

end Persists

end PathTemplate.Reader
