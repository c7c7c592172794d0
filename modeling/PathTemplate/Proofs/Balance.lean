/-
# PathTemplate.Proofs.Balance — the first span is the first balanced one.

A span is found by recursion on the text, with a depth that goes up and down. Where it lies can be told by counting
instead. It begins at the first opening bound, unless a closing one comes before that, and it ends at the first closing
bound up to which as many bounds close as open. Places are byte offsets, so the widths of the characters count.

`Balances` is the condition on the text between the bounds. It comes apart character by character as the recursion
does, and that the three parts of a text are those of its first span follows from this in both directions. The rest is
about offsets: they tell in which order characters stand, and with that where a text can be cut.
-/
import Mathlib.Data.List.Infix
import PathTemplate.Proofs.Spans

namespace PathTemplate

namespace Text

/-! ## Byte offsets -/

theorem utf8Size_append_cons (s t : Text) (c : Char) :
    (s ++ c :: t).utf8Size = s.utf8Size + c.utf8Size + t.utf8Size := by
  rw [utf8Size_append, utf8Size, Nat.add_assoc]

/-- The characters of a text with their byte offsets, if the text begins at the offset. -/
def indexed (start : Nat) : Text → List (Nat × Char)
  | [] => []
  | c :: rest => (start, c) :: indexed (start + c.utf8Size) rest

/-- How often the character occurs at byte offsets from `i` through `j`. -/
def countBetween (t : Text) (c : Char) (i j : Nat) : Nat :=
  (t.indexed 0).countP fun p => i ≤ p.1 && p.1 ≤ j && p.2 == c

theorem indexed_append (start : Nat) (s t : Text) :
    (s ++ t).indexed start = s.indexed start ++ t.indexed (start + s.utf8Size) := by
  induction s generalizing start with
  | nil => rfl
  | cons c s ih => rw [List.cons_append, indexed, indexed, ih, utf8Size, Nat.add_assoc, List.cons_append]

/-- A character stands at the offset that the text before it takes up. -/
theorem mem_indexed_iff {start k : Nat} {c : Char} {t : Text} :
    (k, c) ∈ t.indexed start ↔ ∃ before after, t = before ++ c :: after ∧ k = start + before.utf8Size := by
  constructor
  · intro h
    induction t generalizing start with
    | nil => simp [indexed] at h
    | cons d t ih =>
      rcases List.mem_cons.1 h with heq | h
      · obtain ⟨rfl, rfl⟩ := Prod.mk.inj heq
        exact ⟨[], t, rfl, rfl⟩
      · obtain ⟨before, after, rfl, rfl⟩ := ih h
        exact ⟨d :: before, after, rfl, by rw [utf8Size, Nat.add_assoc]⟩
  · rintro ⟨before, after, rfl, rfl⟩
    rw [indexed_append]
    exact List.mem_append_right _ List.mem_cons_self

theorem range_of_mem_indexed {start : Nat} {t : Text} {p : Nat × Char} (h : p ∈ t.indexed start) :
    start ≤ p.1 ∧ p.1 < start + t.utf8Size := by
  obtain ⟨before, after, rfl, hp⟩ := mem_indexed_iff.1 h
  have hpos := p.2.utf8Size_pos
  rw [utf8Size_append_cons]
  omega

theorem countP_indexed (start : Nat) (t : Text) (c : Char) :
    (t.indexed start).countP (·.2 == c) = t.count c := by
  induction t generalizing start with
  | nil => rfl
  | cons d t ih => rw [indexed, List.countP_cons, ih, List.count_cons]

/-- A text that ends before the first offset, or begins behind the last one, has nothing at the offsets between. -/
theorem countP_indexed_outside {start i j : Nat} {t : Text} (h : start + t.utf8Size ≤ i ∨ j < start) (c : Char) :
    ((t.indexed start).countP fun p => i ≤ p.1 && p.1 ≤ j && p.2 == c) = 0 := by
  refine List.countP_eq_zero.2 fun p hp => ?_
  have hrange := range_of_mem_indexed hp
  simp only [Bool.and_eq_true, decide_eq_true_eq]
  omega

/-- What stands at the offsets from the end of one text through the next character behind another. -/
theorem countBetween_append (before middle after : Text) (d c : Char) :
    (before ++ (middle ++ d :: after)).countBetween c before.utf8Size (before.utf8Size + middle.utf8Size) =
      (middle ++ [d]).count c := by
  have hparts : (before ++ (middle ++ d :: after)).indexed 0 =
      before.indexed 0 ++ ((middle ++ [d]).indexed before.utf8Size ++
        after.indexed (before.utf8Size + (middle ++ [d]).utf8Size)) := by
    rw [List.append_cons, indexed_append, indexed_append, Nat.zero_add]
  have hsize : (middle ++ [d]).utf8Size = middle.utf8Size + d.utf8Size := by simp [utf8Size]
  have hpos := d.utf8Size_pos
  have hmiddle : ∀ p ∈ (middle ++ [d]).indexed before.utf8Size,
      (before.utf8Size ≤ p.1 && p.1 ≤ before.utf8Size + middle.utf8Size && p.2 == c) = true ↔
        (p.2 == c) = true := by
    intro p hp
    have hrange : before.utf8Size ≤ p.1 ∧ p.1 ≤ before.utf8Size + middle.utf8Size := by
      rw [indexed_append] at hp
      rcases List.mem_append.1 hp with hp | hp
      · have := range_of_mem_indexed hp
        omega
      · obtain rfl := List.mem_singleton.1 hp
        exact ⟨Nat.le_add_right _ _, Nat.le_refl _⟩
    simp only [Bool.and_eq_true, decide_eq_true_eq, hrange, true_and]
  rw [countBetween, hparts, List.countP_append, List.countP_append, List.countP_congr hmiddle, countP_indexed,
    countP_indexed_outside (Or.inl (by omega)), countP_indexed_outside (Or.inr (by omega)), Nat.zero_add, Nat.add_zero]

/-- A character whose offset lies in the first part of a text stands in that part. -/
theorem exists_of_utf8Size_lt {x y u v : Text} {d : Char} (h : x ++ y = u ++ d :: v)
    (hlt : u.utf8Size < x.utf8Size) : ∃ w, x = u ++ d :: w ∧ v = w ++ y := by
  rcases List.append_eq_append_iff.1 h with ⟨w, rfl, -⟩ | ⟨w, rfl, hv⟩
  · rw [utf8Size_append] at hlt
    omega
  · cases w with
    | nil => simp at hlt
    | cons e w =>
      obtain ⟨rfl, rfl⟩ := List.cons.inj hv
      exact ⟨w, rfl, rfl⟩

end Text

namespace Brackets

variable {b : Brackets} {t : Text}

/-! ## Balanced interiors -/

/-- Between two bounds that enclose the text, with `depth` further ones open in between: nowhere in the text do more
bounds close than are open, and at its end all are closed. -/
structure Balances (b : Brackets) (depth : Nat) (t : Text) : Prop where
  le : ∀ front, front <+: t → front.count b.closing ≤ front.count b.opening + depth
  eq : t.count b.closing = t.count b.opening + depth

theorem count_singleton_of_ne {c d : Char} (h : c ≠ d) : [c].count d = 0 :=
  List.count_eq_zero.2 fun hmem => h (List.mem_singleton.1 hmem).symm

theorem balances_nil_iff {depth : Nat} : b.Balances depth [] ↔ depth = 0 := by
  constructor
  · intro h
    have := h.eq
    simp only [List.count_nil] at this
    omega
  · rintro rfl
    exact ⟨fun front hfront => by simp [List.prefix_nil.1 hfront], rfl⟩

theorem forall_prefix_cons {p : Text → Prop} {c : Char} :
    (∀ front, front <+: c :: t → p front) ↔ p [] ∧ ∀ front, front <+: t → p (c :: front) := by
  constructor
  · intro h
    exact ⟨h [] List.nil_prefix, fun front hfront => h _ (List.cons_prefix_cons.2 ⟨rfl, hfront⟩)⟩
  · rintro ⟨hnil, hcons⟩ front hfront
    rcases List.prefix_cons_iff.1 hfront with rfl | ⟨rest, rfl, hrest⟩
    · exact hnil
    · exact hcons rest hrest

/-- What the first character opens or closes changes the depth of what follows it. -/
theorem balances_cons_iff {depth further : Nat} {c : Char}
    (hdepth : [c].count b.closing + further = [c].count b.opening + depth) :
    b.Balances depth (c :: t) ↔ b.Balances further t := by
  have hcount (d : Char) (s : Text) : (c :: s).count d = [c].count d + s.count d := by
    rw [← List.singleton_append, List.count_append]
  constructor
  · rintro ⟨hle, heq⟩
    rw [forall_prefix_cons] at hle
    refine ⟨fun front hfront => ?_, ?_⟩
    · have := hle.2 front hfront
      rw [hcount b.closing front, hcount b.opening front] at this
      omega
    · rw [hcount b.closing t, hcount b.opening t] at heq
      omega
  · rintro ⟨hle, heq⟩
    refine ⟨forall_prefix_cons.2 ⟨Nat.zero_le _, fun front hfront => ?_⟩, ?_⟩
    · have := hle front hfront
      rw [hcount b.closing front, hcount b.opening front]
      omega
    · rw [hcount b.closing t, hcount b.opening t]
      omega

section Distinct

variable (hne : b.opening ≠ b.closing)
include hne

theorem balances_opening_iff {depth : Nat} : b.Balances depth (b.opening :: t) ↔ b.Balances (depth + 1) t := by
  apply balances_cons_iff
  rw [List.count_singleton_self, count_singleton_of_ne hne]
  omega

theorem balances_closing_iff {depth : Nat} : b.Balances (depth + 1) (b.closing :: t) ↔ b.Balances depth t := by
  apply balances_cons_iff
  rw [List.count_singleton_self, count_singleton_of_ne hne.symm]
  omega

/-- Where nothing is open inside, a closing bound belongs to the bounds around. -/
theorem not_balances_closing : ¬ b.Balances 0 (b.closing :: t) := by
  intro h
  have hle := h.le [b.closing] (List.cons_prefix_cons.2 ⟨rfl, List.nil_prefix⟩)
  rw [List.count_singleton_self, count_singleton_of_ne hne.symm] at hle
  omega

end Distinct

theorem balances_iff_of_ne {depth : Nat} {c : Char} (hopening : c ≠ b.opening) (hclosing : c ≠ b.closing) :
    b.Balances depth (c :: t) ↔ b.Balances depth t := by
  apply balances_cons_iff
  rw [count_singleton_of_ne hclosing, count_singleton_of_ne hopening]

/-! ## The parts of the first span -/

/-- If the two bounds are the same character, every one of them opens. -/
theorem opening_ne_closing_of_interior? {depth : Nat} {parts : Text × Text}
    (h : b.interior? depth t = some parts) : b.opening ≠ b.closing := by
  intro heq
  induction t generalizing depth parts with
  | nil => simp [interior?] at h
  | cons c rest ih =>
    simp only [interior?] at h
    split at h
    · obtain ⟨found, hfound, -⟩ := Option.map_eq_some_iff.1 h
      exact ih hfound
    · rename_i hopening
      rw [if_neg (heq ▸ hopening)] at h
      obtain ⟨found, hfound, -⟩ := Option.map_eq_some_iff.1 h
      exact ih hfound

theorem balances_of_interior? {depth : Nat} {inside after : Text}
    (h : b.interior? depth t = some (inside, after)) : b.Balances depth inside := by
  have hne := opening_ne_closing_of_interior? h
  induction t generalizing depth inside after with
  | nil => simp [interior?] at h
  | cons c rest ih =>
    simp only [interior?] at h
    split at h
    · rename_i hopening
      subst hopening
      obtain ⟨⟨i, a⟩, hi, heq⟩ := Option.map_eq_some_iff.1 h
      obtain ⟨rfl, rfl⟩ := Prod.mk.inj heq
      exact (balances_opening_iff hne).2 (ih hi)
    · rename_i hopening
      split at h
      · rename_i hclosing
        subst hclosing
        split at h
        · obtain ⟨rfl, rfl⟩ := Prod.mk.inj (Option.some.inj h)
          exact balances_nil_iff.2 rfl
        · obtain ⟨⟨i, a⟩, hi, heq⟩ := Option.map_eq_some_iff.1 h
          obtain ⟨rfl, rfl⟩ := Prod.mk.inj heq
          exact (balances_closing_iff hne).2 (ih hi)
      · rename_i hclosing
        obtain ⟨⟨i, a⟩, hi, heq⟩ := Option.map_eq_some_iff.1 h
        obtain ⟨rfl, rfl⟩ := Prod.mk.inj heq
        exact (balances_iff_of_ne hopening hclosing).2 (ih hi)

/-- A balanced text and a closing bound are the interior of an open span and its end. -/
theorem interior?_append_closing (hne : b.opening ≠ b.closing) {depth : Nat} {inside : Text}
    (h : b.Balances depth inside) (after : Text) :
    b.interior? depth (inside ++ b.closing :: after) = some (inside, after) := by
  induction inside generalizing depth with
  | nil =>
    obtain rfl := balances_nil_iff.1 h
    simp [interior?, hne.symm]
  | cons c inside ih =>
    rw [List.cons_append, interior?.eq_def]
    dsimp only
    by_cases hopening : c = b.opening
    · subst hopening
      rw [if_pos rfl, ih ((balances_opening_iff hne).1 h)]
      rfl
    · rw [if_neg hopening]
      by_cases hclosing : c = b.closing
      · subst hclosing
        rw [if_pos rfl]
        cases depth with
        | zero => exact absurd h (not_balances_closing hne)
        | succ outer =>
          dsimp only
          rw [ih ((balances_closing_iff hne).1 h)]
          rfl
      · rw [if_neg hclosing, ih ((balances_iff_of_ne hopening hclosing).1 h)]
        rfl

end Brackets

/-- The parts are those of a span of the text that begins at its first bound and whose interior is balanced. -/
structure Span.IsBalanced (b : Brackets) (t : Text) (span : Span) : Prop where
  distinct : b.opening ≠ b.closing
  append : t = span.before ++ b.opening :: (span.interior ++ b.closing :: span.after)
  free : b.Free span.before
  balances : b.Balances 0 span.interior

namespace Brackets

variable {b : Brackets} {t : Text}

/-- The first span is the one whose interior is balanced. -/
theorem firstSpan?_eq_some_iff {span : Span} : b.firstSpan? t = some span ↔ span.IsBalanced b t := by
  constructor
  · intro h
    have hfree := free_before h
    have happend : t = span.before ++ b.opening :: (span.interior ++ b.closing :: span.after) := by
      simpa [Span.text] using firstSpan?_append h
    -- without its first part the text begins with the opening bound
    rw [happend, firstSpan?_append_of_free hfree, firstSpan?, if_pos rfl, Option.map_map] at h
    obtain ⟨⟨inside, after⟩, hinside, heq⟩ := Option.map_eq_some_iff.1 h
    have hinterior : inside = span.interior := congrArg Span.interior heq
    exact ⟨opening_ne_closing_of_interior? hinside, happend, hfree, hinterior ▸ balances_of_interior? hinside⟩
  · rintro ⟨hne, rfl, hfree, hbalances⟩
    rw [firstSpan?_append_of_free hfree, firstSpan?, if_pos rfl, interior?_append_closing hne hbalances]
    simp

/-! ## Where the first span lies -/

/-- The bounds of the first balanced span stand at the byte offsets `i` and `j`. -/
structure IsFirstBalanced (b : Brackets) (t : Text) (i j : Nat) : Prop where
  distinct : b.opening ≠ b.closing
  opening : (i, b.opening) ∈ t.indexed 0
  first : ∀ k, (k, b.opening) ∈ t.indexed 0 → i ≤ k
  /-- No closing bound stands before the first opening one. -/
  unclosed : ∀ k, (k, b.closing) ∈ t.indexed 0 → i ≤ k
  closing : (j, b.closing) ∈ t.indexed 0
  lt : i < j
  balanced : t.countBetween b.opening i j = t.countBetween b.closing i j
  /-- No closing bound in between is one at which the bounds are balanced. -/
  earliest : ∀ k, (k, b.closing) ∈ t.indexed 0 → i < k →
    t.countBetween b.opening i k = t.countBetween b.closing i k → j ≤ k

/-- Two bounds are balanced if the text between them holds as many of the one kind as of the other. -/
theorem countBetween_bounds_eq_iff (hne : b.opening ≠ b.closing) (before inside after : Text) :
    let text := before ++ b.opening :: (inside ++ b.closing :: after)
    let i := before.utf8Size
    let j := before.utf8Size + b.opening.utf8Size + inside.utf8Size
    text.countBetween b.opening i j = text.countBetween b.closing i j ↔
      inside.count b.opening = inside.count b.closing := by
  have hcount (c : Char) := Text.countBetween_append before (b.opening :: inside) after b.closing c
  simp only [List.cons_append, Text.utf8Size, ← Nat.add_assoc] at hcount
  have hopening : (b.opening :: (inside ++ [b.closing])).count b.opening = inside.count b.opening + 1 := by
    simp [List.count_append, List.count_eq_zero.2, hne]
  have hclosing : (b.opening :: (inside ++ [b.closing])).count b.closing = inside.count b.closing + 1 := by
    simp [List.count_append, hne]
  dsimp only
  rw [hcount, hcount, hopening, hclosing]
  omega

end Brackets

namespace Span.IsBalanced

variable {b : Brackets} {t : Text} {span : Span}

/-- The bounds of a text stand at the opening bound of the span or behind it. -/
theorem openingOffset_le (h : span.IsBalanced b t) {k : Nat} {c : Char} (hk : (k, c) ∈ t.indexed 0)
    (hc : b.isBound c = true) : span.openingOffset ≤ k := by
  obtain ⟨u, v, heq, rfl⟩ := Text.mem_indexed_iff.1 hk
  by_contra hlt
  rw [Nat.zero_add, not_le] at hlt
  obtain ⟨w, hw, -⟩ := Text.exists_of_utf8Size_lt (h.append.symm.trans heq) hlt
  have hfree := h.free c (by simp [hw])
  rw [hc] at hfree
  simp at hfree

/-- A closing bound inside the span leaves more bounds open than closed up to it. -/
theorem closingOffset_le (h : span.IsBalanced b t) {k : Nat} (hk : (k, b.closing) ∈ t.indexed 0)
    (hlt : span.openingOffset < k)
    (hbalanced : t.countBetween b.opening span.openingOffset k = t.countBetween b.closing span.openingOffset k) :
    span.closingOffset b ≤ k := by
  obtain ⟨u, v, heq, rfl⟩ := Text.mem_indexed_iff.1 hk
  rw [Nat.zero_add] at hlt hbalanced ⊢
  by_contra hinside
  -- the bound stands behind the opening bound of the span and before the closing one, so it cuts the interior in two
  obtain ⟨front, rfl, hfront⟩ := Text.exists_of_utf8Size_lt (heq.symm.trans h.append) hlt
  rw [Text.utf8Size_append_cons] at hbalanced hinside
  have hcut : Text.utf8Size front < span.interior.utf8Size := by
    rw [Span.closingOffset] at hinside
    omega
  obtain ⟨behind, hinterior, -⟩ := Text.exists_of_utf8Size_lt hfront hcut
  have hcount : front.count b.opening = front.count b.closing := by
    rw [heq, List.append_assoc, List.cons_append] at hbalanced
    exact (Brackets.countBetween_bounds_eq_iff h.distinct span.before front v).1 hbalanced
  have hnone : [b.closing].count b.opening = 0 := Brackets.count_singleton_of_ne h.distinct.symm
  have hle := h.balances.le (front ++ [b.closing]) (by simp [hinterior])
  rw [List.count_append, List.count_append, List.count_singleton_self, hcount, hnone] at hle
  omega

theorem isFirstBalanced (h : span.IsBalanced b t) :
    b.IsFirstBalanced t span.openingOffset (span.closingOffset b) where
  distinct := h.distinct
  opening := Text.mem_indexed_iff.2 ⟨span.before, _, h.append, (Nat.zero_add _).symm⟩
  first k hk := h.openingOffset_le hk (by simp [Brackets.isBound])
  unclosed k hk := h.openingOffset_le hk (by simp [Brackets.isBound])
  closing := by
    refine Text.mem_indexed_iff.2 ⟨span.before ++ b.opening :: span.interior, span.after, ?_, ?_⟩
    · rw [h.append, List.append_assoc, List.cons_append]
    · rw [Text.utf8Size_append_cons, Nat.zero_add]
      rfl
  lt := by
    have := b.opening.utf8Size_pos
    rw [Span.openingOffset, Span.closingOffset]
    omega
  balanced := by
    have hbounds := Brackets.countBetween_bounds_eq_iff h.distinct span.before span.interior span.after
    rw [← h.append] at hbounds
    exact hbounds.2 h.balances.eq.symm
  earliest _ := h.closingOffset_le

end Span.IsBalanced

namespace Brackets

variable {b : Brackets} {t : Text}

/-- If no closing bound comes where the bounds before it are balanced, at no place have more closed than opened. -/
theorem count_le_of_cut {inside : Text}
    (hcut : ∀ front behind, inside = front ++ b.closing :: behind →
      front.count b.opening ≠ front.count b.closing) {front : Text} (hfront : front <+: inside) :
    front.count b.closing ≤ front.count b.opening := by
  -- from the left to the right: only a closing bound could break it, and not where the counts are equal
  induction front using List.reverseRecOn with
  | nil => exact Nat.le_refl _
  | append_singleton front c ih =>
    have hle := ih ((List.prefix_append front [c]).trans hfront)
    rw [List.count_append, List.count_append]
    by_cases hclosing : c = b.closing
    · subst hclosing
      obtain ⟨behind, hinside⟩ := hfront
      have hne := hcut front behind (by simp [← hinside])
      rw [List.count_singleton_self]
      omega
    · have hnone : [c].count b.closing = 0 := count_singleton_of_ne hclosing
      omega

namespace IsFirstBalanced

variable {i j : Nat} {before rest : Text}

/-- A bound before the first opening one would stand at a smaller offset. -/
theorem free (h : b.IsFirstBalanced t i j) (htext : t = before ++ b.opening :: rest) (hi : i = before.utf8Size) :
    b.Free before := by
  intro c hc
  obtain ⟨u, v, rfl⟩ := List.append_of_mem hc
  have hlt : Text.utf8Size u < i := by
    have := c.utf8Size_pos
    rw [hi, Text.utf8Size_append_cons]
    omega
  have hmem : (Text.utf8Size u, c) ∈ t.indexed 0 :=
    Text.mem_indexed_iff.2 ⟨u, v ++ b.opening :: rest, by simp [htext], (Nat.zero_add _).symm⟩
  refine isBound_eq_false_iff.2 ⟨?_, ?_⟩
  · rintro rfl
    exact absurd (h.first _ hmem) (Nat.not_le.2 hlt)
  · rintro rfl
    exact absurd (h.unclosed _ hmem) (Nat.not_le.2 hlt)

/-- At a closing bound that stands further left than the balanced one, the bounds are not balanced. -/
theorem count_ne (h : b.IsFirstBalanced t i j) {front behind : Text}
    (htext : t = before ++ b.opening :: (front ++ b.closing :: behind)) (hi : i = before.utf8Size)
    (hlt : before.utf8Size + b.opening.utf8Size + front.utf8Size < j) :
    front.count b.opening ≠ front.count b.closing := by
  intro hbalanced
  have hmem : (before.utf8Size + b.opening.utf8Size + front.utf8Size, b.closing) ∈ t.indexed 0 := by
    refine Text.mem_indexed_iff.2 ⟨before ++ b.opening :: front, behind, ?_, ?_⟩
    · rw [htext, List.append_assoc, List.cons_append]
    · rw [Text.utf8Size_append_cons, Nat.zero_add]
  have hpos := b.opening.utf8Size_pos
  have hle := h.earliest _ hmem (by omega) (by
    rw [hi, htext]
    exact (countBetween_bounds_eq_iff h.distinct before front behind).2 hbalanced)
  omega

/-- Where bounds are counted to be those of the first balanced span, there is one with its bounds there. -/
theorem exists_isBalanced (h : b.IsFirstBalanced t i j) :
    ∃ span : Span, span.IsBalanced b t ∧ span.openingOffset = i ∧ span.closingOffset b = j := by
  obtain ⟨before, rest, htext, hi⟩ := Text.mem_indexed_iff.1 h.opening
  obtain ⟨upTo, after, htext', hj⟩ := Text.mem_indexed_iff.1 h.closing
  rw [Nat.zero_add] at hi hj
  have hlt := h.lt
  rw [hi, hj] at hlt
  obtain ⟨inside, rfl, rfl⟩ := Text.exists_of_utf8Size_lt (htext'.symm.trans htext) hlt
  rw [Text.utf8Size_append_cons] at hj
  have hcount : inside.count b.opening = inside.count b.closing := by
    have hbalanced := h.balanced
    rw [hi, hj, htext] at hbalanced
    exact (countBetween_bounds_eq_iff h.distinct before inside after).1 hbalanced
  have hcut : ∀ front behind, inside = front ++ b.closing :: behind →
      front.count b.opening ≠ front.count b.closing := by
    rintro front behind rfl
    have hfront : t = before ++ b.opening :: (front ++ b.closing :: (behind ++ b.closing :: after)) := by
      simp [htext]
    refine h.count_ne hfront hi ?_
    have := b.closing.utf8Size_pos
    rw [hj, Text.utf8Size_append_cons]
    omega
  have hbalances : b.Balances 0 inside := ⟨fun front hfront => count_le_of_cut hcut hfront, hcount.symm⟩
  exact ⟨⟨before, inside, after⟩, ⟨h.distinct, htext, h.free htext hi, hbalances⟩, hi.symm, hj.symm⟩

end IsFirstBalanced

/-- The first span is found exactly where bounds are balanced for the first time, and its parts are the text, cut at
its bounds: without a bound before it, and with an interior in which never more bounds close than are open and which
closes all of them. -/
theorem firstSpan?_iff_isFirstBalanced (b : Brackets) (t : Text) :
    (∀ i j, ((b.firstSpan? t).map fun span => (span.openingOffset, span.closingOffset b)) = some (i, j) ↔
      b.IsFirstBalanced t i j) ∧
    (b.firstSpan? t = none ↔ ∀ i j, ¬ b.IsFirstBalanced t i j) ∧
    ∀ span, b.firstSpan? t = some span →
      span.before ++ [b.opening] ++ span.interior ++ [b.closing] ++ span.after = t ∧
      (b.opening ∉ span.before ∧ b.closing ∉ span.before) ∧
      (∀ front, front <+: span.interior → front.count b.closing ≤ front.count b.opening) ∧
      span.interior.count b.opening = span.interior.count b.closing := by
  have hoffsets (i j : Nat) :
      ((b.firstSpan? t).map fun span => (span.openingOffset, span.closingOffset b)) = some (i, j) ↔
        b.IsFirstBalanced t i j := by
    rw [Option.map_eq_some_iff]
    simp only [firstSpan?_eq_some_iff, Prod.mk.injEq]
    constructor
    · rintro ⟨span, hspan, rfl, rfl⟩
      exact hspan.isFirstBalanced
    · exact fun h => h.exists_isBalanced
  refine ⟨hoffsets, ?none, ?parts⟩
  case none =>
    simp only [← hoffsets]
    cases b.firstSpan? t <;> simp
  case parts =>
    intro span h
    obtain ⟨-, happend, hfree, hle, heq⟩ := firstSpan?_eq_some_iff.1 h
    refine ⟨by simp [happend], ⟨fun hmem => ?_, fun hmem => ?_⟩, hle, heq.symm⟩
    · exact (isBound_eq_false_iff.1 (hfree _ hmem)).1 rfl
    · exact (isBound_eq_false_iff.1 (hfree _ hmem)).2 rfl

/-- Characters of two bytes stand before the span and in it. The closing bound behind it is one too many, and the one
inside it has a partner. -/
theorem firstSpan?_iff_isFirstBalanced_wide :
    IsFirstBalanced ⟨'[', ']'⟩ "/é[/ü[x]]y]".toList 3 10 ∧
      ∀ i j, ¬ IsFirstBalanced ⟨'|', '|'⟩ "/é|x|".toList i j := by
  refine ⟨((firstSpan?_iff_isFirstBalanced _ _).1 3 10).1 ?span, (firstSpan?_iff_isFirstBalanced _ _).2.1.1 ?none⟩
  case span => decide
  case none => decide

end Brackets

end PathTemplate
