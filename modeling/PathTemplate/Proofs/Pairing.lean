/-
# PathTemplate.Proofs.Pairing — bounds in pairs.

A text is read from left to right, and each closing bound is paired with the nearest opening bound on its left that
has no partner yet. Some bounds may remain without a partner. This is one rule for the whole text, while spans are
looked for one by one, by counting, and again in what is left behind a span.

The two agree up to the first bound without a partner. A first span is a pair whose interior leaves no bound alone,
and where there is no first span the first bound, if there is one, has no partner. So `leadingPairs`, the pairs left
of the first bound without a partner, come apart along the spans.
-/
import PathTemplate.Proofs.Spans

namespace PathTemplate

/-! ## Pairs -/

/-- The bounds of a text: the places of those that are paired, in the order of their closing bounds, and the places
of those without a partner. -/
structure Pairing where
  pairs : List (Nat × Nat)
  unpaired : List Nat
deriving DecidableEq, Repr

namespace Pairing

/-- The number of pairs in which the pair lies, itself among them. -/
def nesting (pairs : List (Nat × Nat)) (p : Nat × Nat) : Nat :=
  pairs.countP fun q => q.1 ≤ p.1 && p.2 ≤ q.2

/-- The greatest nesting of the pairs. -/
def greatestNesting (pairs : List (Nat × Nat)) : Nat := (pairs.map (nesting pairs)).foldr max 0

theorem nesting_cons (q : Nat × Nat) (pairs : List (Nat × Nat)) (p : Nat × Nat) :
    nesting (q :: pairs) p = nesting pairs p + if q.1 ≤ p.1 ∧ p.2 ≤ q.2 then 1 else 0 := by
  rw [nesting, List.countP_cons, nesting]
  simp

theorem nesting_append (ps qs : List (Nat × Nat)) (p : Nat × Nat) :
    nesting (ps ++ qs) p = nesting ps p + nesting qs p :=
  List.countP_append

theorem nesting_eq_zero {pairs : List (Nat × Nat)} {p : Nat × Nat} (h : ∀ q ∈ pairs, q.1 ≤ p.1 → q.2 < p.2) :
    nesting pairs p = 0 := by
  rw [nesting, List.countP_eq_zero]
  intro q hq hin
  simp only [Bool.and_eq_true, decide_eq_true_eq] at hin
  have := h q hq hin.1
  omega

theorem foldr_max_append (ns ms : List Nat) : (ns ++ ms).foldr max 0 = max (ns.foldr max 0) (ms.foldr max 0) := by
  induction ns with
  | nil => simp
  | cons n ns ih => rw [List.cons_append, List.foldr_cons, List.foldr_cons, ih, Nat.max_assoc]

theorem foldr_max_map_succ (ns : List Nat) : max 1 ((ns.map (· + 1)).foldr max 0) = ns.foldr max 0 + 1 := by
  induction ns with
  | nil => rfl
  | cons n ns ih =>
    rw [List.map_cons, List.foldr_cons, List.foldr_cons]
    omega

/-- A pair around some pairs, with others behind it, nests them one deeper. -/
theorem greatestNesting_cons_append {p : Nat × Nat} {inner later : List (Nat × Nat)}
    (hinner : ∀ q ∈ inner, p.1 < q.1 ∧ q.1 < p.2 ∧ q.2 < p.2)
    (hlater : ∀ q ∈ later, p.1 < q.1 ∧ p.2 < q.1 ∧ p.2 < q.2) :
    greatestNesting (p :: (inner ++ later)) = max (greatestNesting inner + 1) (greatestNesting later) := by
  have hself : nesting (p :: (inner ++ later)) p = 1 := by
    rw [nesting_cons, if_pos ⟨Nat.le_refl _, Nat.le_refl _⟩, nesting_eq_zero]
    intro q hq hle
    rcases List.mem_append.1 hq with hq | hq
    · have := hinner q hq
      omega
    · have := hlater q hq
      omega
  have hbelow : inner.map (nesting (p :: (inner ++ later))) = (inner.map (nesting inner)).map (· + 1) := by
    rw [List.map_map]
    refine List.map_congr_left fun q hq => ?_
    have hin := hinner q hq
    have hnone : nesting later q = 0 := nesting_eq_zero fun r hr hle => by
      have := hlater r hr
      omega
    rw [nesting_cons, nesting_append, hnone, if_pos ⟨by omega, by omega⟩]
    rfl
  have hbehind : later.map (nesting (p :: (inner ++ later))) = later.map (nesting later) := by
    refine List.map_congr_left fun q hq => ?_
    have hout := hlater q hq
    have hnone : nesting inner q = 0 := nesting_eq_zero fun r hr _ => by
      have := hinner r hr
      omega
    rw [nesting_cons, nesting_append, hnone, if_neg (by omega), Nat.zero_add, Nat.add_zero]
  rw [greatestNesting, List.map_cons, List.map_append, hself, hbelow, hbehind, List.foldr_cons, foldr_max_append,
    ← Nat.max_assoc, foldr_max_map_succ]
  rfl

end Pairing

namespace Brackets

/-- The pairing of the bounds of a text that begins at the place. A closing bound takes the nearest opening bound on
its left as its partner; `opened` holds the places of those that have none yet, the nearest first. -/
def pairing (b : Brackets) (place : Nat) (opened : List Nat) : Text → Pairing
  | [] => ⟨[], opened⟩
  | c :: rest =>
    if c = b.opening then b.pairing (place + 1) (place :: opened) rest
    else if c = b.closing then
      match opened with
      | [] =>
        let later := b.pairing (place + 1) [] rest
        ⟨later.pairs, place :: later.unpaired⟩
      | nearest :: further =>
        let later := b.pairing (place + 1) further rest
        ⟨(nearest, place) :: later.pairs, later.unpaired⟩
    else b.pairing (place + 1) opened rest

/-- The pairs left of the first bound without a partner; all pairs if there is no such bound. -/
def leadingPairs (b : Brackets) (place : Nat) (t : Text) : List (Nat × Nat) :=
  (b.pairing place [] t).pairs.filter fun p => (b.pairing place [] t).unpaired.all (p.2 < ·)

variable {b : Brackets}

/-! ## One character at a time -/

theorem pairing_opening (place : Nat) (opened : List Nat) (t : Text) :
    b.pairing place opened (b.opening :: t) = b.pairing (place + 1) (place :: opened) t :=
  if_pos rfl

theorem pairing_closing_nil {c : Char} (hc : c ≠ b.opening) (hclosing : c = b.closing) (place : Nat) (t : Text) :
    b.pairing place [] (c :: t) =
      ⟨(b.pairing (place + 1) [] t).pairs, place :: (b.pairing (place + 1) [] t).unpaired⟩ :=
  (if_neg hc).trans (if_pos hclosing)

theorem pairing_closing_cons {c : Char} (hc : c ≠ b.opening) (hclosing : c = b.closing) (place nearest : Nat)
    (further : List Nat) (t : Text) :
    b.pairing place (nearest :: further) (c :: t) =
      ⟨(nearest, place) :: (b.pairing (place + 1) further t).pairs,
        (b.pairing (place + 1) further t).unpaired⟩ :=
  (if_neg hc).trans (if_pos hclosing)

theorem pairing_of_ne {c : Char} (hopening : c ≠ b.opening) (hclosing : c ≠ b.closing) (place : Nat)
    (opened : List Nat) (t : Text) :
    b.pairing place opened (c :: t) = b.pairing (place + 1) opened t :=
  (if_neg hopening).trans (if_neg hclosing)

/-- Text without bounds only moves the places along. -/
theorem pairing_append_of_free {x : Text} (hx : b.Free x) (place : Nat) (opened : List Nat) (t : Text) :
    b.pairing place opened (x ++ t) = b.pairing (place + x.length) opened t := by
  induction x generalizing place with
  | nil => rfl
  | cons c x ih =>
    obtain ⟨hc, hfree⟩ := free_cons.1 hx
    obtain ⟨hopening, hclosing⟩ := isBound_eq_false_iff.1 hc
    rw [List.cons_append, pairing_of_ne hopening hclosing, ih hfree, List.length_cons]
    congr 1
    omega

/-! ## Where pairs and single bounds lie -/

/-- A pair is closed within the text. -/
theorem closing_mem_range {place : Nat} {opened : List Nat} {t : Text} {p : Nat × Nat}
    (hp : p ∈ (b.pairing place opened t).pairs) : place ≤ p.2 ∧ p.2 < place + t.length := by
  fun_induction pairing b place opened t with
  | case1 => simp at hp
  | case2 place opened rest ih =>
    have := ih hp
    rw [List.length_cons]
    omega
  | case3 place rest hc later ih =>
    have := ih hp
    rw [List.length_cons]
    omega
  | case4 place rest hc nearest further later ih =>
    rw [List.length_cons]
    rcases List.mem_cons.1 hp with rfl | hp
    · dsimp only
      omega
    · have := ih hp
      omega
  | case5 place opened c rest hopening hclosing ih =>
    have := ih hp
    rw [List.length_cons]
    omega

/-- The opening bound of a pair was open before the text or lies in it, left of the closing one. -/
theorem opening_mem_range {place : Nat} {opened : List Nat} {t : Text} (hopened : ∀ o ∈ opened, o < place)
    {p : Nat × Nat} (hp : p ∈ (b.pairing place opened t).pairs) : (p.1 ∈ opened ∨ place ≤ p.1) ∧ p.1 < p.2 := by
  fun_induction pairing b place opened t with
  | case1 => simp at hp
  | case2 place opened rest ih =>
    have hplace : ∀ o ∈ place :: opened, o < place + 1 :=
      List.forall_mem_cons.2 ⟨Nat.lt_succ_self _, fun o ho => Nat.lt_succ_of_lt (hopened o ho)⟩
    obtain ⟨h, hlt⟩ := ih hplace hp
    refine ⟨?_, hlt⟩
    rcases h with h | h
    · rcases List.mem_cons.1 h with h | h
      · exact Or.inr (Nat.le_of_eq h.symm)
      · exact Or.inl h
    · exact Or.inr (Nat.le_of_succ_le h)
  | case3 place rest hc later ih =>
    obtain ⟨h, hlt⟩ := ih (by simp) hp
    exact ⟨h.imp_right Nat.le_of_succ_le, hlt⟩
  | case4 place rest hc nearest further later ih =>
    rcases List.mem_cons.1 hp with rfl | hp
    · exact ⟨Or.inl List.mem_cons_self, hopened _ List.mem_cons_self⟩
    · obtain ⟨h, hlt⟩ := ih (fun o ho => Nat.lt_succ_of_lt (hopened o (List.mem_cons_of_mem _ ho))) hp
      exact ⟨h.imp (List.mem_cons_of_mem _) Nat.le_of_succ_le, hlt⟩
  | case5 place opened c rest hopening hclosing ih =>
    obtain ⟨h, hlt⟩ := ih (fun o ho => Nat.lt_succ_of_lt (hopened o ho)) hp
    exact ⟨h.imp_right Nat.le_of_succ_le, hlt⟩

/-- A bound without a partner was open before the text or lies in the text. -/
theorem mem_opened_or_le_of_mem_unpaired {place : Nat} {opened : List Nat} {t : Text} {u : Nat}
    (hu : u ∈ (b.pairing place opened t).unpaired) : u ∈ opened ∨ place ≤ u := by
  fun_induction pairing b place opened t with
  | case1 => exact Or.inl hu
  | case2 place opened rest ih =>
    rcases ih hu with h | h
    · rcases List.mem_cons.1 h with rfl | h
      · exact Or.inr (Nat.le_refl _)
      · exact Or.inl h
    · exact Or.inr (Nat.le_of_succ_le h)
  | case3 place rest hc later ih =>
    rcases List.mem_cons.1 hu with rfl | hu
    · exact Or.inr (Nat.le_refl _)
    · exact (ih hu).imp_right Nat.le_of_succ_le
  | case4 place rest hc nearest further later ih =>
    exact (ih hu).imp (List.mem_cons_of_mem _) Nat.le_of_succ_le
  | case5 place opened c rest hopening hclosing ih => exact (ih hu).imp_right Nat.le_of_succ_le

/-- A bound that is open before the text is paired in it or remains without a partner. -/
theorem paired_or_unpaired_of_mem_opened {place : Nat} {opened : List Nat} {t : Text} {o : Nat} (ho : o ∈ opened) :
    o ∈ (b.pairing place opened t).unpaired ∨ ∃ p ∈ (b.pairing place opened t).pairs, p.1 = o := by
  fun_induction pairing b place opened t with
  | case1 => exact Or.inl ho
  | case2 place opened rest ih => exact ih (List.mem_cons_of_mem _ ho)
  | case3 => simp at ho
  | case4 place rest hc nearest further later ih =>
    rcases List.mem_cons.1 ho with rfl | ho
    · exact Or.inr ⟨_, List.mem_cons_self, rfl⟩
    · refine (ih ho).imp_right ?_
      rintro ⟨p, hp, heq⟩
      exact ⟨p, List.mem_cons_of_mem _ hp, heq⟩
  | case5 place opened c rest hopening hclosing ih => exact ih ho

/-- Every bound of a text is paired or remains without a partner. -/
theorem paired_or_unpaired {place : Nat} {opened : List Nat} {t : Text} {k : Nat} {c : Char}
    (hk : t[k]? = some c) (hc : b.isBound c = true) :
    place + k ∈ (b.pairing place opened t).unpaired ∨
      ∃ p ∈ (b.pairing place opened t).pairs, place + k = p.1 ∨ place + k = p.2 := by
  induction t generalizing place opened k with
  | nil => simp at hk
  | cons d t ih =>
    -- the bound is the first character, or it is found in the rest, with the first character read
    cases k with
    | zero =>
      obtain rfl : d = c := by simpa using hk
      rw [Nat.add_zero]
      by_cases hopening : d = b.opening
      · subst hopening
        rw [pairing_opening]
        refine (paired_or_unpaired_of_mem_opened List.mem_cons_self).imp_right ?_
        rintro ⟨p, hp, heq⟩
        exact ⟨p, hp, Or.inl heq.symm⟩
      · have hclosing : d = b.closing := by simpa [isBound, hopening] using hc
        cases opened with
        | nil =>
          rw [pairing_closing_nil hopening hclosing]
          exact Or.inl List.mem_cons_self
        | cons nearest further =>
          rw [pairing_closing_cons hopening hclosing]
          exact Or.inr ⟨_, List.mem_cons_self, Or.inr rfl⟩
    | succ k =>
      have hrest (opened : List Nat) := @ih (place + 1) opened k (by simpa using hk)
      have hplace : place + 1 + k = place + (k + 1) := by omega
      rw [hplace] at hrest
      by_cases hopening : d = b.opening
      · subst hopening
        rw [pairing_opening]
        exact hrest _
      · by_cases hclosing : d = b.closing
        · cases opened with
          | nil =>
            rw [pairing_closing_nil hopening hclosing]
            exact (hrest []).imp_left (List.mem_cons_of_mem _)
          | cons nearest further =>
            rw [pairing_closing_cons hopening hclosing]
            refine (hrest further).imp_right ?_
            rintro ⟨p, hp, heq⟩
            exact ⟨p, List.mem_cons_of_mem _ hp, heq⟩
        · rw [pairing_of_ne hopening hclosing]
          exact hrest _

/-! ## Spans are pairs -/

/-- Reading the interior of an open span settles the bounds opened inside it, and leaves those opened before it as
they were. -/
theorem pairing_interior {depth : Nat} {t inside after : Text} (h : b.interior? depth t = some (inside, after))
    (place : Nat) (inner : List Nat) (hinner : inner.length = depth) :
    ∃ ps, ∀ opened u, b.pairing place (inner ++ opened) (inside ++ u) =
      ⟨ps ++ (b.pairing (place + inside.length) opened u).pairs,
        (b.pairing (place + inside.length) opened u).unpaired⟩ := by
  induction t generalizing depth inside after place inner with
  | nil => simp [interior?] at h
  | cons c rest ih =>
    -- in all cases but one the interior goes on behind the character
    have shift (i : Text) : place + 1 + i.length = place + (c :: i).length := by
      rw [List.length_cons]
      omega
    simp only [interior?] at h
    split at h
    · rename_i hopening
      subst hopening
      obtain ⟨⟨i, a⟩, hi, heq⟩ := Option.map_eq_some_iff.1 h
      obtain ⟨rfl, rfl⟩ := Prod.mk.inj heq
      obtain ⟨ps, hps⟩ := ih hi (place + 1) (place :: inner) (congrArg (· + 1) hinner)
      refine ⟨ps, fun opened u => ?_⟩
      rw [List.cons_append, pairing_opening, ← shift]
      exact hps opened u
    · rename_i hopening
      split at h
      · rename_i hclosing
        split at h
        · obtain ⟨rfl, rfl⟩ := Prod.mk.inj (Option.some.inj h)
          obtain rfl := List.eq_nil_of_length_eq_zero hinner
          exact ⟨[], fun opened u => rfl⟩
        · obtain ⟨⟨i, a⟩, hi, heq⟩ := Option.map_eq_some_iff.1 h
          obtain ⟨rfl, rfl⟩ := Prod.mk.inj heq
          cases inner with
          | nil => simp at hinner
          | cons nearest further =>
            obtain ⟨ps, hps⟩ := ih hi (place + 1) further (Nat.succ.inj hinner)
            refine ⟨(nearest, place) :: ps, fun opened u => ?_⟩
            rw [List.cons_append, List.cons_append, pairing_closing_cons hopening hclosing, ← shift, hps opened u,
              List.cons_append]
      · rename_i hclosing
        obtain ⟨⟨i, a⟩, hi, heq⟩ := Option.map_eq_some_iff.1 h
        obtain ⟨rfl, rfl⟩ := Prod.mk.inj heq
        obtain ⟨ps, hps⟩ := ih hi (place + 1) inner hinner
        refine ⟨ps, fun opened u => ?_⟩
        rw [List.cons_append, pairing_of_ne hopening hclosing, ← shift]
        exact hps opened u

/-- The bound that a span would have to close remains without a partner if the text ends before. -/
theorem mem_unpaired_of_interior?_eq_none {depth : Nat} {t : Text} (h : b.interior? depth t = none) (place o : Nat)
    (inner : List Nat) (hinner : inner.length = depth) :
    o ∈ (b.pairing place (inner ++ [o]) t).unpaired := by
  induction t generalizing depth place inner with
  | nil => simp [pairing]
  | cons c rest ih =>
    simp only [interior?] at h
    split at h
    · rename_i hopening
      subst hopening
      rw [pairing_opening]
      exact ih (Option.map_eq_none_iff.1 h) (place + 1) (place :: inner) (congrArg (· + 1) hinner)
    · rename_i hopening
      split at h
      · rename_i hclosing
        split at h
        · simp at h
        · cases inner with
          | nil => simp at hinner
          | cons nearest further =>
            rw [List.cons_append, pairing_closing_cons hopening hclosing]
            exact ih (Option.map_eq_none_iff.1 h) (place + 1) further (Nat.succ.inj hinner)
      · rename_i hclosing
        rw [pairing_of_ne hopening hclosing]
        exact ih (Option.map_eq_none_iff.1 h) (place + 1) inner hinner

end Brackets

/-- The places of the two bounds of the span, if the text begins at the place. -/
def Span.bounds (place : Nat) (span : Span) : Nat × Nat :=
  (place + span.before.length, place + span.before.length + 1 + span.interior.length)

namespace Brackets

variable {b : Brackets} {t : Text} {span : Span}

theorem exists_interior?_of_firstSpan? (h : b.firstSpan? t = some span) :
    ∃ u, b.interior? 0 u = some (span.interior, span.after) := by
  induction t generalizing span with
  | nil => simp [firstSpan?] at h
  | cons c rest ih =>
    simp only [firstSpan?] at h
    split at h
    · obtain ⟨⟨i, a⟩, hi, rfl⟩ := Option.map_eq_some_iff.1 h
      exact ⟨rest, hi⟩
    · split at h
      · simp at h
      · obtain ⟨s, hs, rfl⟩ := Option.map_eq_some_iff.1 h
        have hrest := ih hs
        exact hrest

/-- The interior of a span leaves no bound without a partner, the bounds of the span are a pair, and behind the
span the pairing begins anew. -/
theorem pairing_of_firstSpan? (hne : b.opening ≠ b.closing) (h : b.firstSpan? t = some span) (place : Nat) :
    (b.pairing ((span.bounds place).1 + 1) [] span.interior).unpaired = [] ∧
    b.pairing place [] t =
      ⟨(b.pairing ((span.bounds place).1 + 1) [] span.interior).pairs ++
          span.bounds place :: (b.pairing ((span.bounds place).2 + 1) [] span.after).pairs,
        (b.pairing ((span.bounds place).2 + 1) [] span.after).unpaired⟩ := by
  obtain ⟨u, hu⟩ := exists_interior?_of_firstSpan? h
  obtain ⟨ps, hps⟩ := pairing_interior hu ((span.bounds place).1 + 1) [] rfl
  have halone : b.pairing ((span.bounds place).1 + 1) [] span.interior = ⟨ps, []⟩ := by
    have := hps [] []
    simpa [pairing] using this
  have htext : t = span.before ++ b.opening :: (span.interior ++ b.closing :: span.after) := by
    rw [firstSpan?_append h]
    simp [Span.text]
  refine ⟨by rw [halone], ?_⟩
  rw [halone, htext, pairing_append_of_free (free_before h), pairing_opening]
  have hspan := hps [(span.bounds place).1] (b.closing :: span.after)
  rw [pairing_closing_cons hne.symm rfl] at hspan
  exact hspan

/-- Where there is no first span, the first bound, if there is one, has no partner. -/
theorem free_or_unpaired_of_firstSpan?_eq_none (h : b.firstSpan? t = none) (place : Nat) :
    b.Free t ∨ ∃ u ∈ (b.pairing place [] t).unpaired, ∀ p ∈ (b.pairing place [] t).pairs, u < p.2 := by
  induction t generalizing place with
  | nil => exact Or.inl free_nil
  | cons c rest ih =>
    simp only [firstSpan?] at h
    split at h
    · rename_i hopening
      subst hopening
      rw [pairing_opening]
      refine Or.inr ⟨place, ?_, fun p hp => (closing_mem_range hp).1⟩
      exact mem_unpaired_of_interior?_eq_none (Option.map_eq_none_iff.1 h) (place + 1) place [] rfl
    · rename_i hopening
      split at h
      · rename_i hclosing
        rw [pairing_closing_nil hopening hclosing]
        exact Or.inr ⟨place, List.mem_cons_self, fun p hp => (closing_mem_range hp).1⟩
      · rename_i hclosing
        rw [pairing_of_ne hopening hclosing]
        refine (ih (Option.map_eq_none_iff.1 h) (place + 1)).imp_left fun hfree => ?_
        exact free_cons.2 ⟨isBound_eq_false_iff.2 ⟨hopening, hclosing⟩, hfree⟩

/-! ## Leading pairs -/

theorem leadingPairs_of_free (hfree : b.Free t) (place : Nat) : b.leadingPairs place t = [] := by
  have hpairing := pairing_append_of_free hfree place [] []
  rw [List.append_nil] at hpairing
  rw [leadingPairs, hpairing]
  rfl

theorem leadingPairs_of_none (h : b.firstSpan? t = none) (place : Nat) : b.leadingPairs place t = [] := by
  rcases free_or_unpaired_of_firstSpan?_eq_none h place with hfree | ⟨u, hu, hlt⟩
  · exact leadingPairs_of_free hfree place
  · rw [leadingPairs, List.filter_eq_nil_iff]
    intro p hp hall
    have := of_decide_eq_true (List.all_eq_true.1 hall u hu)
    have := hlt p hp
    omega

/-- Leading pairs lie in the text. -/
theorem range_of_mem_leadingPairs {place : Nat} {p : Nat × Nat} (hp : p ∈ b.leadingPairs place t) :
    place ≤ p.1 ∧ p.1 < p.2 ∧ p.2 < place + t.length := by
  have hp : p ∈ (b.pairing place [] t).pairs := (List.mem_filter.1 hp).1
  obtain ⟨hopening, hlt⟩ := opening_mem_range (by simp) hp
  exact ⟨hopening.resolve_left List.not_mem_nil, hlt, (closing_mem_range hp).2⟩

/-- If no bound is left alone, all pairs are leading. -/
theorem leadingPairs_of_unpaired_eq_nil {place : Nat} (h : (b.pairing place [] t).unpaired = []) :
    b.leadingPairs place t = (b.pairing place [] t).pairs := by
  rw [leadingPairs, h]
  simp

/-- The leading pairs are those of the interior of the first span, the span itself, and those behind it. -/
theorem leadingPairs_of_some (hne : b.opening ≠ b.closing) (h : b.firstSpan? t = some span) (place : Nat) :
    b.leadingPairs place t =
      b.leadingPairs ((span.bounds place).1 + 1) span.interior ++
        span.bounds place :: b.leadingPairs ((span.bounds place).2 + 1) span.after := by
  obtain ⟨hinterior, hpairing⟩ := pairing_of_firstSpan? hne h place
  -- all that lies in the span is left of every bound behind it
  have hall (p : Nat × Nat) (hp : p.2 ≤ (span.bounds place).2) :
      (b.pairing ((span.bounds place).2 + 1) [] span.after).unpaired.all (p.2 < ·) = true := by
    rw [List.all_eq_true]
    intro u hu
    rcases mem_opened_or_le_of_mem_unpaired hu with hu | hu
    · simp at hu
    · exact decide_eq_true (by omega)
  have hinside : ∀ p ∈ (b.pairing ((span.bounds place).1 + 1) [] span.interior).pairs,
      (b.pairing ((span.bounds place).2 + 1) [] span.after).unpaired.all (p.2 < ·) = true := by
    intro p hp
    have := (closing_mem_range hp).2
    exact hall p (Nat.le_of_lt this)
  have hspan := hall (span.bounds place) (Nat.le_refl _)
  rw [leadingPairs_of_unpaired_eq_nil hinterior, leadingPairs, hpairing, List.filter_append,
    List.filter_eq_self.2 hinside]
  dsimp only
  rw [List.filter_cons_of_pos (by exact hspan)]
  rfl

end Brackets

end PathTemplate
