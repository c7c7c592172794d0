/-
# PathTemplate.Proofs.Occurrence — the tokens of a template, and which one is at fault.

Tokens can be told from the text alone, without taking it apart into segments. A token is an opening parameter bound,
a content without parameter bounds, and a closing one, wherever such a thing occurs, unless its content holds an
option bound that is structure. Reading meets exactly these tokens, and meets them from left to right, although it
looks for them in one stretch of flat text after the other and goes into a segment before it goes on behind it.

So reading fails exactly if the content of some token is faulty, and the fault it reports is that of the leftmost one.
-/
import Mathlib.Data.List.Forall2
import Mathlib.Data.List.TakeWhile
import PathTemplate.Proofs.Structure

namespace PathTemplate

/-! ## Tokens of flat text -/

namespace Brackets

variable {b : Brackets}

/-- A token with the content stands at the place in the text. -/
def TokenAt (b : Brackets) (t : Text) (place : Nat) (content : Text) : Prop :=
  b.Free content ∧ ∃ before after, before.length = place ∧ t = before ++ (Piece.token content).raw b ++ after

theorem TokenAt.add_le {t content : Text} {i : Nat} (h : b.TokenAt t i content) :
    i + content.length + 2 ≤ t.length := by
  obtain ⟨-, before, after, rfl, rfl⟩ := h
  simp only [Piece.raw, List.length_append, List.length_cons, List.length_nil]
  omega

theorem TokenAt.append_right {t content : Text} {i : Nat} (h : b.TokenAt t i content) (u : Text) :
    b.TokenAt (t ++ u) i content := by
  obtain ⟨hfree, before, after, hlength, rfl⟩ := h
  exact ⟨hfree, before, after ++ u, hlength, by rw [List.append_assoc]⟩

theorem TokenAt.append_left {t content : Text} {i : Nat} (h : b.TokenAt t i content) (u : Text) :
    b.TokenAt (u ++ t) (u.length + i) content := by
  obtain ⟨hfree, before, after, rfl, rfl⟩ := h
  exact ⟨hfree, u ++ before, after, List.length_append, by simp only [List.append_assoc]⟩

theorem tokenAt_cons_zero {c : Char} {t content : Text} :
    b.TokenAt (c :: t) 0 content ↔ c = b.opening ∧ ∃ after, b.content? t = some (content, after) := by
  constructor
  · rintro ⟨hfree, before, after, hlength, heq⟩
    obtain rfl := List.eq_nil_of_length_eq_zero hlength
    obtain ⟨rfl, rfl⟩ : c = b.opening ∧ t = content ++ b.closing :: after := by simpa [Piece.raw] using heq
    exact ⟨rfl, after, content?_append_closing hfree⟩
  · rintro ⟨rfl, after, hcontent⟩
    refine ⟨content?_free hcontent, [], after, rfl, ?_⟩
    rw [content?_append hcontent]
    simp [Piece.raw]

theorem tokenAt_cons_succ {c : Char} {t content : Text} {i : Nat} :
    b.TokenAt (c :: t) (i + 1) content ↔ b.TokenAt t i content := by
  constructor
  · rintro ⟨hfree, before, after, hlength, heq⟩
    cases before with
    | nil => simp at hlength
    | cons d before =>
      obtain ⟨rfl, rfl⟩ := List.cons.inj heq
      exact ⟨hfree, before, after, Nat.succ.inj hlength, rfl⟩
  · intro h
    have := h.append_left [c]
    rwa [List.length_singleton, Nat.add_comm] at this

/-- No token begins in text without opening bounds. -/
theorem tokenAt_append_iff {x t content : Text} (hx : b.opening ∉ x) {i : Nat} :
    b.TokenAt (x ++ t) i content ↔ ∃ j, i = x.length + j ∧ b.TokenAt t j content := by
  refine ⟨fun h => ?_, ?_⟩
  · induction x generalizing i with
    | nil => exact ⟨i, (Nat.zero_add i).symm, h⟩
    | cons c x ih =>
      cases i with
      | zero => exact absurd (tokenAt_cons_zero.1 h).1 fun hc => hx (hc ▸ List.mem_cons_self)
      | succ i =>
        obtain ⟨j, rfl, hj⟩ := ih (List.not_mem_of_not_mem_cons hx) (tokenAt_cons_succ.1 h)
        exact ⟨j, by rw [List.length_cons]; omega, hj⟩
  · rintro ⟨j, rfl, hj⟩
    exact hj.append_left x

/-- A token in a text with a character that is no bound lies before it, has it in its content, or lies behind it. -/
theorem TokenAt.cases_append_cons {u v content : Text} {c : Char} (hc : b.isBound c = false) {i : Nat}
    (h : b.TokenAt (u ++ c :: v) i content) :
    b.TokenAt u i content ∨ (i < u.length ∧ u.length ≤ i + content.length) ∨
      ∃ j, i = u.length + 1 + j ∧ b.TokenAt v j content := by
  obtain ⟨hopening, hclosing⟩ := isBound_eq_false_iff.1 hc
  induction u generalizing i with
  | nil =>
    cases i with
    | zero => exact absurd (tokenAt_cons_zero.1 h).1 hopening
    | succ i => exact Or.inr (Or.inr ⟨i, by simp only [List.length_nil]; omega, tokenAt_cons_succ.1 h⟩)
  | cons d u ih =>
    rw [List.cons_append] at h
    rw [List.length_cons]
    cases i with
    | zero =>
      obtain ⟨rfl, after, hcontent⟩ := tokenAt_cons_zero.1 h
      cases hu : b.content? u with
      | some found =>
        obtain ⟨content', after'⟩ := found
        rw [content?_append_of_some hu] at hcontent
        obtain ⟨rfl, -⟩ := Prod.mk.inj (Option.some.inj hcontent)
        exact Or.inl (tokenAt_cons_zero.2 ⟨rfl, after', hu⟩)
      | none =>
        by_cases hfree : b.Free u
        · rw [content?_append_of_free hfree, content?, if_neg hclosing, if_neg hopening, Option.map_map] at hcontent
          obtain ⟨⟨inside, rest⟩, -, heq⟩ := Option.map_eq_some_iff.1 hcontent
          obtain ⟨rfl, -⟩ := Prod.mk.inj heq
          refine Or.inr (Or.inl ⟨Nat.succ_pos _, ?_⟩)
          simp only [List.length_append, List.length_cons]
          omega
        · rw [content?_append_of_not_free hfree hu] at hcontent
          simp at hcontent
    | succ i =>
      rcases ih (tokenAt_cons_succ.1 h) with h | ⟨hlt, hle⟩ | ⟨j, rfl, hj⟩
      · exact Or.inl (tokenAt_cons_succ.2 h)
      · exact Or.inr (Or.inl ⟨by omega, by omega⟩)
      · exact Or.inr (Or.inr ⟨j, by omega, hj⟩)

end Brackets

/-- The tokens among pieces with their places, if the first piece stands at the place. -/
def Piece.tokensFrom (place : Nat) : List Piece → List (Nat × Text)
  | [] => []
  | .text t :: rest => tokensFrom (place + t.length) rest
  | .token content :: rest => (place, content) :: tokensFrom (place + content.length + 2) rest

namespace Piece

theorem tokensFrom_attach (c : Char) (place : Nat) (ps : List Piece) :
    tokensFrom place (attach c ps) = tokensFrom (place + 1) ps := by
  unfold attach
  split
  · rw [tokensFrom, tokensFrom, List.length_cons, Nat.add_right_comm, Nat.add_assoc]
  · rw [tokensFrom]
    rfl

theorem le_of_mem_tokensFrom {place : Nat} {ps : List Piece} {o : Nat × Text} (h : o ∈ tokensFrom place ps) :
    place ≤ o.1 := by
  induction ps generalizing place with
  | nil => simp [tokensFrom] at h
  | cons p ps ih =>
    cases p with
    | text t => exact Nat.le_of_add_right_le (ih h)
    | token content =>
      rcases List.mem_cons.1 h with rfl | h
      · exact Nat.le_refl _
      · have := ih h
        omega

/-- Each token ends where the next one begins, or before. -/
theorem apart_tokensFrom (place : Nat) (ps : List Piece) :
    (tokensFrom place ps).Pairwise fun o p => o.1 + o.2.length + 2 ≤ p.1 := by
  induction ps generalizing place with
  | nil => exact List.Pairwise.nil
  | cons p ps ih =>
    cases p with
    | text t => exact ih _
    | token content => exact List.pairwise_cons.2 ⟨fun o ho => le_of_mem_tokensFrom ho, ih _⟩

theorem pairwise_tokensFrom (place : Nat) (ps : List Piece) :
    (tokensFrom place ps).Pairwise fun o p => o.1 < p.1 :=
  (apart_tokensFrom place ps).imp fun h => by omega

end Piece

/-- The pieces of a text have the tokens that stand in it. -/
theorem Brackets.mem_tokensFrom_pieces {b : Brackets} (hne : b.opening ≠ b.closing) {t content : Text}
    {place k : Nat} :
    (k, content) ∈ Piece.tokensFrom place (b.pieces t) ↔ ∃ i, k = place + i ∧ b.TokenAt t i content := by
  -- a character that begins no token leaves the tokens of the text behind it
  have skip {c : Char} {t : Text} {place : Nat} (hzero : ¬ b.TokenAt (c :: t) 0 content) :
      (∃ i, k = place + 1 + i ∧ b.TokenAt t i content) ↔ ∃ i, k = place + i ∧ b.TokenAt (c :: t) i content := by
    constructor
    · rintro ⟨i, rfl, hi⟩
      exact ⟨i + 1, by omega, tokenAt_cons_succ.2 hi⟩
    · rintro ⟨i, rfl, hi⟩
      cases i with
      | zero => exact absurd hi hzero
      | succ i => exact ⟨i, by omega, tokenAt_cons_succ.1 hi⟩
  fun_induction pieces b t generalizing place with
  | case1 =>
    refine ⟨fun h => by simp [Piece.tokensFrom] at h, ?_⟩
    rintro ⟨i, -, hi⟩
    have := hi.add_le
    simp at this
  | case2 rest found after hcontent ih =>
    have hnone : b.opening ∉ found ++ [b.closing] := by
      have hfound : b.opening ∉ found := fun h => (isBound_eq_false_iff.1 (content?_free hcontent _ h)).1 rfl
      simpa [hfound] using hne
    have hrest : rest = (found ++ [b.closing]) ++ after := by simp [content?_append hcontent]
    rw [Piece.tokensFrom, List.mem_cons]
    refine (or_congr_right ih).trans ⟨?_, ?_⟩
    · rintro (heq | ⟨i, rfl, hi⟩)
      · obtain ⟨rfl, rfl⟩ := Prod.mk.inj heq
        exact ⟨0, rfl, tokenAt_cons_zero.2 ⟨rfl, after, hcontent⟩⟩
      · refine ⟨found.length + 1 + i + 1, by omega, tokenAt_cons_succ.2 ?_⟩
        rw [hrest, tokenAt_append_iff hnone]
        exact ⟨i, by simp, hi⟩
    · rintro ⟨i, rfl, hi⟩
      cases i with
      | zero =>
        obtain ⟨-, after', hcontent'⟩ := tokenAt_cons_zero.1 hi
        rw [hcontent] at hcontent'
        obtain ⟨rfl, -⟩ := Prod.mk.inj (Option.some.inj hcontent')
        exact Or.inl rfl
      | succ i =>
        have hi := tokenAt_cons_succ.1 hi
        rw [hrest, tokenAt_append_iff hnone] at hi
        obtain ⟨j, rfl, hj⟩ := hi
        refine Or.inr ⟨j, ?_, hj⟩
        simp only [List.length_append, List.length_singleton]
        omega
  | case3 rest hcontent ih =>
    rw [Piece.tokensFrom_attach]
    refine ih.trans (skip ?_)
    rw [tokenAt_cons_zero, hcontent]
    simp
  | case4 c rest hc ih =>
    rw [Piece.tokensFrom_attach]
    refine ih.trans (skip ?_)
    rw [tokenAt_cons_zero]
    exact fun h => hc h.1

/-! ## Tokens of a template -/

namespace Grammar

variable {g : Grammar}

/-- The bound at the place belongs to a leading pair of a text, if the text begins at `start`. -/
def IsStructural (g : Grammar) (start : Nat) (t : Text) (place : Nat) : Prop :=
  ∃ p ∈ g.option.leadingPairs start t, place = p.1 ∨ place = p.2

/-- A token with the content stands at the place in the source, and its content holds no bound that is structure. -/
def HasToken (g : Grammar) (source : Text) (place : Nat) (content : Text) : Prop :=
  g.parameter.TokenAt source place content ∧
    ∀ k, place < k → k ≤ place + content.length → ¬ g.IsStructural 0 source k

/-- The tokens that are met when a text is taken apart, with their places, if the text begins at the place. -/
def tokensFrom (g : Grammar) (place : Nat) (t : Text) : List (Nat × Text) :=
  match _h : g.option.firstSpan? t with
  | none => Piece.tokensFrom place (g.parameter.pieces t)
  | some span =>
    Piece.tokensFrom place (g.parameter.pieces span.before) ++
      (g.tokensFrom ((span.bounds place).1 + 1) span.interior ++ g.tokensFrom ((span.bounds place).2 + 1) span.after)
termination_by t.length
decreasing_by
  · exact (Brackets.firstSpan?_length _h).1
  · exact (Brackets.firstSpan?_length _h).2

theorem tokensFrom_of_none {t : Text} (h : g.option.firstSpan? t = none) (place : Nat) :
    g.tokensFrom place t = Piece.tokensFrom place (g.parameter.pieces t) := by
  rw [tokensFrom]
  split
  · rfl
  · rename_i hsome
    rw [h] at hsome
    simp at hsome

theorem tokensFrom_of_some {t : Text} {span : Span} (h : g.option.firstSpan? t = some span) (place : Nat) :
    g.tokensFrom place t =
      Piece.tokensFrom place (g.parameter.pieces span.before) ++
        (g.tokensFrom ((span.bounds place).1 + 1) span.interior ++
          g.tokensFrom ((span.bounds place).2 + 1) span.after) := by
  rw [tokensFrom]
  split
  · rename_i hnone
    rw [h] at hnone
    simp at hnone
  · rename_i hsome
    rw [h] at hsome
    obtain rfl := Option.some.inj hsome
    rfl

theorem isBound_option (g : Grammar) :
    g.parameter.isBound g.option.opening = false ∧ g.parameter.isBound g.option.closing = false := by
  have hdistinct := g.distinct
  simp only [Delimiters.characters, Delimiters.assignments, List.map_cons, List.map_nil, List.nodup_cons,
    List.mem_cons, not_or] at hdistinct
  obtain ⟨⟨-, ho, hc, -⟩, ⟨ho', hc', -⟩, -⟩ := hdistinct
  exact ⟨Brackets.isBound_eq_false_iff.2 ⟨ho, hc⟩, Brackets.isBound_eq_false_iff.2 ⟨ho', hc'⟩⟩

/-- A bound is structure in a text with a span if it is structure in the interior, a bound of the span, or structure
behind the span. -/
theorem isStructural_span {t : Text} {span : Span} (h : g.option.firstSpan? t = some span) {start k : Nat} :
    g.IsStructural start t k ↔
      g.IsStructural ((span.bounds start).1 + 1) span.interior k ∨
        (k = (span.bounds start).1 ∨ k = (span.bounds start).2) ∨
          g.IsStructural ((span.bounds start).2 + 1) span.after k := by
  unfold IsStructural
  rw [Brackets.leadingPairs_of_some (option_opening_ne_closing g) h]
  simp only [List.mem_append, List.mem_cons, or_and_right, exists_or, exists_eq_left]

theorem isStructural_bounds {t : Text} {span : Span} (h : g.option.firstSpan? t = some span) (start : Nat) :
    g.IsStructural start t (span.bounds start).1 ∧ g.IsStructural start t (span.bounds start).2 :=
  ⟨(isStructural_span h).2 (Or.inr (Or.inl (Or.inl rfl))), (isStructural_span h).2 (Or.inr (Or.inl (Or.inr rfl)))⟩

theorem IsStructural.range {t : Text} {start k : Nat} (h : g.IsStructural start t k) :
    start ≤ k ∧ k < start + t.length := by
  obtain ⟨p, hp, hk⟩ := h
  have := Brackets.range_of_mem_leadingPairs hp
  omega

theorem not_isStructural_of_none {t : Text} (h : g.option.firstSpan? t = none) (start k : Nat) :
    ¬ g.IsStructural start t k := by
  rintro ⟨p, hp, -⟩
  rw [Brackets.leadingPairs_of_none h] at hp
  exact List.not_mem_nil hp

/-- Left of a first span there is no structure. -/
theorem not_isStructural_of_lt {t : Text} {span : Span} (h : g.option.firstSpan? t = some span) {start k : Nat}
    (hk : k < (span.bounds start).1) : ¬ g.IsStructural start t k := by
  have hsecond : (span.bounds start).2 = (span.bounds start).1 + 1 + span.interior.length := rfl
  rw [isStructural_span h]
  rintro (hstructural | hbound | hstructural)
  · have := hstructural.range
    omega
  · omega
  · have := hstructural.range
    omega

/-- Inside a span there is only the structure of its interior. -/
theorem isStructural_iff_interior {t : Text} {span : Span} (h : g.option.firstSpan? t = some span) {start k : Nat}
    (hfirst : (span.bounds start).1 < k) (hsecond : k < (span.bounds start).2) :
    g.IsStructural start t k ↔ g.IsStructural ((span.bounds start).1 + 1) span.interior k := by
  rw [isStructural_span h]
  apply or_iff_left
  rintro (hbound | hstructural)
  · omega
  · have := hstructural.range
    omega

/-- Behind a span there is only the structure of what follows it. -/
theorem isStructural_iff_after {t : Text} {span : Span} (h : g.option.firstSpan? t = some span) {start k : Nat}
    (hk : (span.bounds start).2 < k) :
    g.IsStructural start t k ↔ g.IsStructural ((span.bounds start).2 + 1) span.after k := by
  have hsecond : (span.bounds start).2 = (span.bounds start).1 + 1 + span.interior.length := rfl
  rw [isStructural_span h, ← or_assoc]
  apply or_iff_right
  rintro (hstructural | hbound)
  · have := hstructural.range
    omega
  · omega

/-- The tokens that are met are those that stand in the text, but for those with structure in their content. -/
theorem mem_tokensFrom_iff {t content : Text} {place k : Nat} :
    (k, content) ∈ g.tokensFrom place t ↔
      ∃ i, k = place + i ∧ g.parameter.TokenAt t i content ∧
        ∀ j, k < j → j ≤ k + content.length → ¬ g.IsStructural place t j := by
  induction hn : t.length using Nat.strongRecOn generalizing t place with
  | ind n ih =>
    subst hn
    cases hspan : g.option.firstSpan? t with
    | none =>
      rw [tokensFrom_of_none hspan, Brackets.mem_tokensFrom_pieces g.parameter_opening_ne_closing]
      simp only [not_isStructural_of_none hspan, not_false_eq_true, implies_true, and_true]
    | some span =>
      obtain ⟨hinterior, hafter⟩ := Brackets.firstSpan?_length hspan
      have htext : t = span.before ++ g.option.opening :: (span.interior ++ g.option.closing :: span.after) := by
        rw [Brackets.firstSpan?_append hspan]
        simp [Span.text]
      have hfirst : (span.bounds place).1 = place + span.before.length := rfl
      have hsecond : (span.bounds place).2 = (span.bounds place).1 + 1 + span.interior.length := rfl
      rw [tokensFrom_of_some hspan, List.mem_append, List.mem_append,
        Brackets.mem_tokensFrom_pieces g.parameter_opening_ne_closing, ih _ hinterior rfl, ih _ hafter rfl]
      constructor
      · -- what stands in a part stands in the text, and the structure of the other parts is not in its way
        rintro (⟨i, rfl, hi⟩ | ⟨i, rfl, hi, hnone⟩ | ⟨i, rfl, hi, hnone⟩)
        · have hle := hi.add_le
          exact ⟨i, rfl, htext ▸ hi.append_right _, fun j _ hlej => not_isStructural_of_lt hspan (by omega)⟩
        · have hle := hi.add_le
          have hopening := (hi.append_right (g.option.closing :: span.after)).append_left [g.option.opening]
          refine ⟨span.before.length + (1 + i), by omega, htext ▸ hopening.append_left span.before,
            fun j hlt hlej => ?_⟩
          rw [isStructural_iff_interior hspan (by omega) (by omega)]
          exact hnone j hlt hlej
        · have hclosing := (hi.append_left [g.option.closing]).append_left span.interior
          have hopening := hclosing.append_left [g.option.opening]
          refine ⟨span.before.length + (1 + (span.interior.length + (1 + i))), by omega,
            htext ▸ hopening.append_left span.before, fun j hlt hlej => ?_⟩
          rw [isStructural_iff_after hspan (by omega)]
          exact hnone j hlt hlej
      · -- a token that is in no part reaches over a bound of the span, which is structure
        rintro ⟨i, rfl, hi, hnone⟩
        rw [htext] at hi
        rcases hi.cases_append_cons g.isBound_option.1 with hi | ⟨hlt, hle⟩ | ⟨j, rfl, hj⟩
        · exact Or.inl ⟨i, rfl, hi⟩
        · exact absurd (isStructural_bounds hspan place).1 (hnone _ (by omega) (by omega))
        · rcases hj.cases_append_cons g.isBound_option.2 with hj | ⟨hlt, hle⟩ | ⟨l, rfl, hl⟩
          · have hle := hj.add_le
            refine Or.inr (Or.inl ⟨j, by omega, hj, fun k hlt hlek => ?_⟩)
            rw [← isStructural_iff_interior hspan (by omega) (by omega)]
            exact hnone k hlt hlek
          · exact absurd (isStructural_bounds hspan place).2 (hnone _ (by omega) (by omega))
          · refine Or.inr (Or.inr ⟨l, by omega, hl, fun k hlt hlek => ?_⟩)
            rw [← isStructural_iff_after hspan (by omega)]
            exact hnone k hlt hlek

theorem range_of_mem_tokensFrom {t : Text} {place : Nat} {o : Nat × Text} (h : o ∈ g.tokensFrom place t) :
    place ≤ o.1 ∧ o.1 < place + t.length := by
  obtain ⟨i, hi, htoken, -⟩ := mem_tokensFrom_iff.1 h
  have := htoken.add_le
  omega

/-- Tokens are met from left to right. -/
theorem pairwise_tokensFrom (g : Grammar) (place : Nat) (t : Text) :
    (g.tokensFrom place t).Pairwise fun o p => o.1 < p.1 := by
  fun_induction tokensFrom g place t with
  | case1 place t h => exact Piece.pairwise_tokensFrom _ _
  | case2 place t span h ihinterior ihafter =>
    have hfirst : (span.bounds place).1 = place + span.before.length := rfl
    have hsecond : (span.bounds place).2 = (span.bounds place).1 + 1 + span.interior.length := rfl
    rw [List.pairwise_append, List.pairwise_append]
    refine ⟨Piece.pairwise_tokensFrom _ _, ⟨ihinterior, ihafter, fun o ho p hp => ?_⟩, fun o ho p hp => ?_⟩
    · have := range_of_mem_tokensFrom ho
      have := range_of_mem_tokensFrom hp
      omega
    · obtain ⟨i, hi, htoken⟩ := (Brackets.mem_tokensFrom_pieces g.parameter_opening_ne_closing).1 ho
      have := htoken.add_le
      rcases List.mem_append.1 hp with hp | hp
      · have := range_of_mem_tokensFrom hp
        omega
      · have := range_of_mem_tokensFrom hp
        omega

theorem mem_tokensFrom_zero_iff {source content : Text} {place : Nat} :
    (place, content) ∈ g.tokensFrom 0 source ↔ g.HasToken source place content := by
  rw [mem_tokensFrom_iff]
  simp only [Nat.zero_add, exists_eq_left']
  rfl

end Grammar

/-! ## The content of a token -/

namespace Token

/-- The content has the fault: more than one separator, or else nothing in front of the separator. -/
def HasFault (separator : Char) (content : Text) : TokenFault → Prop
  | .repeatedSeparator => 1 < content.count separator
  | .emptyName => content.count separator ≤ 1 ∧ (content = [] ∨ content.head? = some separator)

/-- The token is the one with the content: its name stands in front of the separator, and its type, unless it is
empty, behind it. -/
structure IsReadFrom (b : Brackets) (separator : Char) (content : Text) (token : Token) : Prop where
  raw : token.raw = (Piece.token content).raw b
  name_ne_nil : token.name ≠ []
  name : separator ∉ token.name
  content : content = token.name ∧ token.typeName = none ∨
    ∃ typeName, separator ∉ typeName ∧ content = token.name ++ separator :: typeName ∧
      token.typeName = if typeName = [] then none else some typeName

variable {separator : Char} {raw : Text}

theorem forall_bne_of_not_mem {t : Text} (h : separator ∉ t) : ∀ c ∈ t, (c != separator) = true := by
  intro c hc
  rw [bne_iff_ne]
  rintro rfl
  exact h hc

theorem ofContent?_of_not_mem {content : Text} (h : separator ∉ content) :
    ofContent? separator raw content = if content = [] then .error .emptyName else .ok ⟨content, none, raw⟩ := by
  have hall := forall_bne_of_not_mem h
  have htake : content.takeWhile (· != separator) = content := List.takeWhile_eq_self_iff.2 hall
  have hdrop : content.dropWhile (· != separator) = [] := List.dropWhile_eq_nil_iff.2 hall
  unfold ofContent?
  rw [htake, hdrop]
  cases content <;> rfl

theorem ofContent?_append {name typeName : Text} (h : separator ∉ name) :
    ofContent? separator raw (name ++ separator :: typeName) =
      if separator ∈ typeName then .error .repeatedSeparator
      else if name = [] then .error .emptyName
      else .ok ⟨name, if typeName = [] then none else some typeName, raw⟩ := by
  have hall := forall_bne_of_not_mem h
  have htake : (name ++ separator :: typeName).takeWhile (· != separator) = name := by
    rw [List.takeWhile_append_of_pos hall]
    simp
  have hdrop : (name ++ separator :: typeName).dropWhile (· != separator) = separator :: typeName := by
    rw [List.dropWhile_append_of_pos hall]
    simp
  unfold ofContent?
  rw [htake, hdrop]
  simp

end Token

namespace Grammar

variable {g : Grammar} {content : Text}

theorem token?_eq_ok_iff {token : Token} :
    g.token? content = .ok token ↔ token.IsReadFrom g.parameter g.separator content := by
  unfold token?
  constructor
  · intro h
    by_cases hmem : g.separator ∈ content
    · obtain ⟨name, typeName, rfl, hname⟩ := List.eq_append_cons_of_mem hmem
      rw [Token.ofContent?_append hname] at h
      split at h
      · simp at h
      · rename_i htype
        split at h
        · simp at h
        · rename_i hne
          obtain rfl := Except.ok.inj h
          exact ⟨rfl, hne, hname, Or.inr ⟨typeName, htype, rfl, rfl⟩⟩
    · rw [Token.ofContent?_of_not_mem hmem] at h
      split at h
      · simp at h
      · rename_i hne
        obtain rfl := Except.ok.inj h
        exact ⟨rfl, hne, hmem, Or.inl ⟨rfl, rfl⟩⟩
  · rintro ⟨hraw, hne, hname, ⟨rfl, htype⟩ | ⟨typeName, hmem, rfl, htype⟩⟩
    · rw [Token.ofContent?_of_not_mem hname, if_neg hne, ← hraw, ← htype]
    · rw [Token.ofContent?_append hname, if_neg hmem, if_neg hne, ← hraw, ← htype]

theorem token?_eq_error_iff {fault : TokenFault} :
    g.token? content = .error fault ↔ Token.HasFault g.separator content fault := by
  unfold token?
  by_cases hmem : g.separator ∈ content
  · obtain ⟨name, typeName, rfl, hname⟩ := List.eq_append_cons_of_mem hmem
    have hcount : (name ++ g.separator :: typeName).count g.separator = typeName.count g.separator + 1 := by
      rw [List.count_append, List.count_eq_zero.2 hname, List.count_cons_self, Nat.zero_add]
    have hempty : name ++ g.separator :: typeName = [] ∨ (name ++ g.separator :: typeName).head? = some g.separator ↔
        name = [] := by
      cases name with
      | nil => simp
      | cons c name =>
        have hne : c ≠ g.separator := fun h => hname (h ▸ List.mem_cons_self)
        simpa using hne
    rw [Token.ofContent?_append hname]
    unfold Token.HasFault
    rw [hcount, hempty]
    by_cases htype : g.separator ∈ typeName
    · have := List.count_pos_iff.2 htype
      rw [if_pos htype]
      cases fault with
      | repeatedSeparator => simpa using this
      | emptyName => simpa using fun h => absurd h (by omega)
    · have := List.count_eq_zero.2 htype
      rw [if_neg htype, this]
      by_cases hne : name = []
      · rw [if_pos hne]
        cases fault <;> simp [hne]
      · rw [if_neg hne]
        cases fault <;> simp [hne]
  · have hcount : content.count g.separator = 0 := List.count_eq_zero.2 hmem
    have hhead : content.head? ≠ some g.separator := fun h => hmem (List.mem_of_mem_head? h)
    rw [Token.ofContent?_of_not_mem hmem]
    unfold Token.HasFault
    rw [hcount]
    by_cases hne : content = []
    · rw [if_pos hne]
      cases fault <;> simp [hne]
    · rw [if_neg hne]
      cases fault <;> simp [hne, hhead]

end Grammar

/-! ## Reading token by token -/

section Results

variable {ε α β : Type} {f : α → Except ε β}

theorem mapM_eq_ok_iff {xs : List α} {ys : List β} :
    xs.mapM f = .ok ys ↔ List.Forall₂ (fun x y => f x = .ok y) xs ys := by
  induction xs generalizing ys with
  | nil =>
    rw [List.mapM_nil, List.forall₂_nil_left_iff]
    exact ⟨fun h => (Except.ok.inj h).symm, fun h => h ▸ rfl⟩
  | cons x xs ih =>
    rw [List.mapM_cons, List.forall₂_cons_left_iff, bind_eq_ok_iff]
    simp only [bind_eq_ok_iff, ih]
    constructor
    · rintro ⟨y, hy, ys', hys, heq⟩
      exact ⟨y, ys', hy, hys, (Except.ok.inj heq).symm⟩
    · rintro ⟨y, ys', hy, hys, rfl⟩
      exact ⟨y, hy, ys', hys, rfl⟩

/-- What fails is the first element that fails. -/
theorem mapM_eq_error_iff {xs : List α} {e : ε} :
    xs.mapM f = .error e ↔
      ∃ front x rest, xs = front ++ x :: rest ∧ (∀ y ∈ front, ∃ b, f y = .ok b) ∧ f x = .error e := by
  induction xs with
  | nil => simp [pure, Except.pure]
  | cons x xs ih =>
    rw [List.mapM_cons]
    cases hx : f x with
    | error e' =>
      constructor
      · rintro h
        obtain rfl : e' = e := Except.error.inj h
        exact ⟨[], x, xs, rfl, by simp, hx⟩
      · rintro ⟨front, y, rest, heq, hfront, hy⟩
        cases front with
        | nil =>
          obtain ⟨rfl, -⟩ := List.cons.inj heq
          obtain rfl := Except.error.inj (hx.symm.trans hy)
          rfl
        | cons z front =>
          obtain ⟨rfl, -⟩ := List.cons.inj heq
          obtain ⟨b, hb⟩ := hfront x List.mem_cons_self
          exact nomatch hx.symm.trans hb
    | ok b =>
      have htail : ((Except.ok b : Except ε β) >>= fun y => xs.mapM f >>= fun ys => pure (y :: ys)) = .error e ↔
          xs.mapM f = .error e := by
        cases xs.mapM f <;> simp [bind, Except.bind, pure, Except.pure]
      rw [htail, ih]
      constructor
      · rintro ⟨front, y, rest, rfl, hfront, hy⟩
        exact ⟨x :: front, y, rest, rfl, List.forall_mem_cons.2 ⟨⟨b, hx⟩, hfront⟩, hy⟩
      · rintro ⟨front, y, rest, heq, hfront, hy⟩
        cases front with
        | nil =>
          obtain ⟨rfl, -⟩ := List.cons.inj heq
          exact nomatch hx.symm.trans hy
        | cons z front =>
          obtain ⟨rfl, rfl⟩ := List.cons.inj heq
          exact ⟨front, y, rest, rfl, fun w hw => hfront w (List.mem_cons_of_mem _ hw), hy⟩

end Results

namespace Grammar

variable {g : Grammar}

/-- Read the token that stands at some place. Where it stands plays no role. -/
def readToken? (g : Grammar) (o : Nat × Text) : Except Error Token :=
  (g.token? o.2).mapError (.invalidParameter ((Piece.token o.2).raw g.parameter))

/-- Flat text is read token by token. -/
theorem map_tokens_flatSequence? (place : Nat) (ps : List Piece) :
    (g.flatSequence? ps).map Sequence.tokens = (Piece.tokensFrom place ps).mapM g.readToken? := by
  induction ps generalizing place with
  | nil => rfl
  | cons p ps ih =>
    cases p with
    | text t =>
      rw [flatSequence?, Piece.tokensFrom, ← ih]
      cases g.flatSequence? ps <;> rfl
    | token content =>
      rw [flatSequence?, Piece.tokensFrom, List.mapM_cons, ← ih]
      unfold readToken?
      cases g.token? content with
      | error fault => rfl
      | ok token => cases g.flatSequence? ps <;> rfl

/-- A text is read token by token. -/
theorem map_tokens_sequence? (place : Nat) (t : Text) :
    (g.sequence? t).map Sequence.tokens = (g.tokensFrom place t).mapM g.readToken? := by
  fun_induction tokensFrom g place t with
  | case1 place t h => rw [sequence?_of_none h, map_tokens_flatSequence?]
  | case2 place t span h ihinterior ihafter =>
    rw [sequence?_of_some h, List.mapM_append, List.mapM_append, ← map_tokens_flatSequence?, ← ihinterior, ← ihafter]
    cases g.flatSequence? (g.parameter.pieces span.before) with
    | error e => rfl
    | ok before =>
      cases g.sequence? span.interior with
      | error e => rfl
      | ok body =>
        cases g.sequence? span.after with
        | error e => rfl
        | ok after => exact congrArg Except.ok (Sequence.tokens_append before (.optional body after))

theorem readToken?_eq_error_iff {o : Nat × Text} {e : Error} :
    g.readToken? o = .error e ↔
      ∃ fault, Token.HasFault g.separator o.2 fault ∧
        e = .invalidParameter ((Piece.token o.2).raw g.parameter) fault := by
  simp only [← token?_eq_error_iff]
  unfold readToken?
  cases g.token? o.2 with
  | error fault => simp [Except.mapError, eq_comm]
  | ok token => simp [Except.mapError]

theorem readToken?_eq_ok_iff {o : Nat × Text} {token : Token} :
    g.readToken? o = .ok token ↔ token.IsReadFrom g.parameter g.separator o.2 := by
  rw [← token?_eq_ok_iff]
  unfold readToken?
  cases g.token? o.2 <;> simp [Except.mapError]

end Grammar

/-! ## The parameters of a template -/

/-- The token of a parameter node. -/
def NodeKind.token? : NodeKind → Option Token
  | parameter token => some token
  | _ => none

/-- The tokens of the parameter nodes, in the order of their numbers. -/
def Template.parameters (t : Template) : List Token := t.outline.filterMap (·.kind.token?)

theorem Sequence.filterMap_token?_nodes (parent next : Nat) (s : Sequence) :
    (s.nodes parent next).filterMap (·.kind.token?) = s.tokens := by
  induction s generalizing parent next with
  | nil => rfl
  | literal t rest ih => exact ih _ _
  | parameter token rest ih => exact congrArg (token :: ·) (ih _ _)
  | optional body rest ihb ihr =>
    show ((body.nodes next (next + 1)) ++ _).filterMap _ = _
    rw [List.filterMap_append, ihb, ihr]
    rfl

theorem Template.parameters_eq_tokens (t : Template) : t.parameters = t.segments.tokens :=
  t.segments.filterMap_token?_nodes 0 1

/-! ## Faults -/

namespace Grammar

variable {g : Grammar} {source : Text}

theorem exists_readToken?_iff {o : Nat × Text} :
    (∃ token, g.readToken? o = .ok token) ↔ ∀ fault, ¬ Token.HasFault g.separator o.2 fault := by
  constructor
  · rintro ⟨token, htoken⟩ fault hfault
    exact nomatch htoken.symm.trans (readToken?_eq_error_iff.2 ⟨fault, hfault, rfl⟩)
  · intro hnone
    cases hread : g.readToken? o with
    | ok token => exact ⟨token, rfl⟩
    | error e =>
      obtain ⟨fault, hfault, -⟩ := readToken?_eq_error_iff.1 hread
      exact absurd hfault (hnone fault)

theorem parse?_eq_error_iff {e : Error} :
    Template.parse? g source = .error e ↔ (g.tokensFrom 0 source).mapM g.readToken? = .error e := by
  rw [← map_tokens_sequence?]
  unfold Template.parse?
  cases g.sequence? source <;> simp [Except.map]

theorem forall₂_of_parse? {template : Template} (h : Template.parse? g source = .ok template) :
    List.Forall₂ (fun o token => g.readToken? o = .ok token) (g.tokensFrom 0 source) template.parameters := by
  obtain ⟨rfl, hread⟩ := Template.sequence?_of_parse? h
  rw [← mapM_eq_ok_iff, ← map_tokens_sequence?, hread, Template.parameters_eq_tokens]
  rfl

/-- Of the tokens in a list, those in front of one of them are the tokens left of it. -/
theorem mem_front_iff {front rest : List (Nat × Text)} {o p : Nat × Text}
    (h : g.tokensFrom 0 source = front ++ o :: rest) :
    p ∈ front ↔ p.1 < o.1 ∧ g.HasToken source p.1 p.2 := by
  have hsorted := g.pairwise_tokensFrom 0 source
  have hmem : p ∈ front ++ o :: rest ↔ g.HasToken source p.1 p.2 := h ▸ mem_tokensFrom_zero_iff
  rw [h, List.pairwise_append, List.pairwise_cons] at hsorted
  obtain ⟨-, ⟨hrest, -⟩, hfront⟩ := hsorted
  rw [← hmem, List.mem_append]
  constructor
  · intro hp
    exact ⟨hfront p hp o List.mem_cons_self, Or.inl hp⟩
  · rintro ⟨hlt, hp | hp⟩
    · exact hp
    · rcases List.mem_cons.1 hp with rfl | hp
      · exact absurd hlt (Nat.lt_irrefl _)
      · exact absurd (hrest p hp) (Nat.lt_asymm hlt)

/-- The fault that is reported is that of the leftmost faulty token. -/
theorem parse?_eq_error_iff_leftmost {e : Error} :
    Template.parse? g source = .error e ↔
      ∃ place content fault, g.HasToken source place content ∧ Token.HasFault g.separator content fault ∧
        (∀ place' content', place' < place → g.HasToken source place' content' →
          ∀ fault', ¬ Token.HasFault g.separator content' fault') ∧
        e = .invalidParameter ((Piece.token content).raw g.parameter) fault := by
  rw [parse?_eq_error_iff, mapM_eq_error_iff]
  constructor
  · rintro ⟨front, ⟨place, content⟩, rest, heq, hfront, herror⟩
    obtain ⟨fault, hfault, rfl⟩ := readToken?_eq_error_iff.1 herror
    have htoken : g.HasToken source place content :=
      mem_tokensFrom_zero_iff.1 (heq ▸ List.mem_append_right _ List.mem_cons_self)
    refine ⟨place, content, fault, htoken, hfault, fun place' content' hlt htoken' => ?_, rfl⟩
    have hmem : (place', content') ∈ front := (mem_front_iff heq).2 ⟨hlt, htoken'⟩
    exact exists_readToken?_iff.1 (hfront _ hmem)
  · rintro ⟨place, content, fault, htoken, hfault, hleft, rfl⟩
    obtain ⟨front, rest, heq⟩ := List.append_of_mem (mem_tokensFrom_zero_iff.2 htoken)
    refine ⟨front, (place, content), rest, heq, fun o ho => ?_, readToken?_eq_error_iff.2 ⟨fault, hfault, rfl⟩⟩
    obtain ⟨hlt, htoken'⟩ := (mem_front_iff heq).1 ho
    exact exists_readToken?_iff.2 (hleft o.1 o.2 hlt htoken')

end Grammar

/-- Reading fails exactly if the content of some token is faulty, and reports the leftmost such token with its fault. If
it succeeds, the parameter nodes are the tokens of the source from left to right, and the parameter names are those of
the tokens, each where it occurs first. -/
theorem parse?_iff_tokens (g : Grammar) (source : Text) :
    ((∃ e, Template.parse? g source = .error e) ↔
      ∃ place content fault, g.HasToken source place content ∧ Token.HasFault g.separator content fault) ∧
    (∀ e, Template.parse? g source = .error e ↔
      ∃ place content fault, g.HasToken source place content ∧ Token.HasFault g.separator content fault ∧
        (∀ place' content', place' < place → g.HasToken source place' content' →
          ∀ fault', ¬ Token.HasFault g.separator content' fault') ∧
        e = .invalidParameter ((Piece.token content).raw g.parameter) fault) ∧
    ∀ template, Template.parse? g source = .ok template →
      ∃ occurrences : List (Nat × Text),
        occurrences.Pairwise (fun o p => o.1 < p.1) ∧
        (∀ place content, (place, content) ∈ occurrences ↔ g.HasToken source place content) ∧
        List.Forall₂ (fun o token => token.IsReadFrom g.parameter g.separator o.2) occurrences
          template.parameters ∧
        template.parameterNames = (template.parameters.map (·.name)).eraseDups := by
  refine ⟨⟨?fault, ?fails⟩, fun e => Grammar.parse?_eq_error_iff_leftmost, fun template hparse =>
    ⟨g.tokensFrom 0 source, g.pairwise_tokensFrom 0 source, ?occurrences, ?tokens, ?names⟩⟩
  case fault =>
    rintro ⟨e, he⟩
    obtain ⟨place, content, fault, htoken, hfault, -⟩ := Grammar.parse?_eq_error_iff_leftmost.1 he
    exact ⟨place, content, fault, htoken, hfault⟩
  case fails =>
    rintro ⟨place, content, fault, htoken, hfault⟩
    cases hparse : Template.parse? g source with
    | error e => exact ⟨e, rfl⟩
    | ok template =>
      -- all tokens would have been read
      have hread := (Grammar.forall₂_of_parse? hparse).imp fun o token h =>
        (⟨⟨token, h⟩, h⟩ : (∃ token, g.readToken? o = .ok token) ∧ g.readToken? o = .ok token)
      have hall := ((List.forall₂_and_left _ _).1 hread).1 (place, content)
        (Grammar.mem_tokensFrom_zero_iff.2 htoken)
      exact absurd hfault (Grammar.exists_readToken?_iff.1 hall fault)
  case occurrences => exact fun place content => Grammar.mem_tokensFrom_zero_iff
  case tokens => exact (Grammar.forall₂_of_parse? hparse).imp fun o token => Grammar.readToken?_eq_ok_iff.1
  case names =>
    rw [Template.parameters_eq_tokens]
    rfl

/-- A bound without a partner inside a token, and behind it a pair that is no structure. -/
theorem parse?_iff_tokens_stray :
    ∃ template, Template.parse? .standard "/{a]b}[/{c:digits}]{a]b}".toList = .ok template ∧
      (∃ occurrences : List (Nat × Text),
        (∀ place content, (place, content) ∈ occurrences ↔
          Grammar.standard.HasToken "/{a]b}[/{c:digits}]{a]b}".toList place content) ∧
        List.Forall₂ (fun o token => token.IsReadFrom Grammar.standard.parameter Grammar.standard.separator o.2)
          occurrences template.parameters) ∧
      template.parameterNames = ["a]b".toList, "c".toList] := by
  let stray : Token := ⟨"a]b".toList, none, "{a]b}".toList⟩
  let typed : Token := ⟨"c".toList, some "digits".toList, "{c:digits}".toList⟩
  have hparse : Template.parse? .standard "/{a]b}[/{c:digits}]{a]b}".toList =
      .ok ⟨"/{a]b}[/{c:digits}]{a]b}".toList, .standard,
        .literal "/".toList (.parameter stray (.literal "[/".toList (.parameter typed
          (.literal "]".toList (.parameter stray .nil)))))⟩ := by
    decide +kernel
  obtain ⟨occurrences, -, hmem, htokens, hnames⟩ := (parse?_iff_tokens .standard _).2.2 _ hparse
  exact ⟨_, hparse, ⟨occurrences, hmem, htokens⟩, hnames.trans (by decide +kernel)⟩

end PathTemplate
