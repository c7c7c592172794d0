/-
# PathTemplate.Proofs.Structure — which bounds are structure and which are text.

The optional segments of a template are the leading pairs of its source: the pairs left of the first option bound
without a partner. All other option bounds are text, and they stand behind the last optional segment: a tree begins
with a part whose texts hold no option bound and ends with a part that has no optional segment.
-/
import PathTemplate.Proofs.Inclusion
import PathTemplate.Proofs.Layout

namespace PathTemplate

namespace Grammar

variable {g : Grammar}

theorem option_opening_ne_closing (g : Grammar) : g.option.opening ≠ g.option.closing := by
  have hdistinct := g.distinct
  simp only [Delimiters.characters, Delimiters.assignments, List.map_cons, List.map_nil, List.nodup_cons,
    List.mem_cons, not_or] at hdistinct
  exact hdistinct.1.1

/-! ## Flat text -/

theorem texts_flat {ps : List Piece} {s : Sequence} (h : g.flatSequence? ps = .ok s) :
    s.texts = ps.map (Piece.raw g.parameter) := by
  refine flatSequence?_induction (motive := fun ps s => s.texts = ps.map (Piece.raw g.parameter))
    ?nil ?text ?token h
  case nil => rfl
  case text =>
    intro t ps s ih
    rw [Sequence.texts, ih]
    rfl
  case token =>
    intro content token ps s htoken ih
    rw [Sequence.texts, ih, raw_of_token? htoken]
    rfl

/-- The texts of flat text make it up. -/
theorem flatten_texts_flat {t : Text} {s : Sequence} (h : g.flatSequence? (g.parameter.pieces t) = .ok s) :
    s.texts.flatten = t := by
  rw [texts_flat h]
  exact Brackets.flatMap_raw_pieces g.parameter t

theorem width_flat {t : Text} {s : Sequence} (h : g.flatSequence? (g.parameter.pieces t) = .ok s) :
    s.width = t.length := by
  rw [Sequence.width_of_optionals_eq_nil (optionals_flat h), flatten_texts_flat h]

/-! ## Segments are leading pairs -/

theorem length_eq_of_firstSpan? {t : Text} {span : Span} (h : g.option.firstSpan? t = some span) :
    t.length = span.before.length + (span.interior.length + 2 + span.after.length) := by
  have := congrArg List.length (Brackets.firstSpan?_append h)
  simp only [Span.text, List.length_append, List.length_cons, List.length_nil] at this
  omega

theorem width_of_read {t : Text} {s : Sequence} (h : g.sequence? t = .ok s) : s.width = t.length := by
  refine sequence?_induction (motive := fun t s => s.width = t.length) ?flat ?span h
  case flat => exact fun t s _ hflat => width_flat hflat
  case span =>
    intro t span before body after hsome hbefore ihbody ihafter
    rw [Sequence.width_append, Sequence.width, width_flat hbefore, ihbody, ihafter, length_eq_of_firstSpan? hsome]

/-- The extents of a sequence with a span are that of the span, those of its interior and those behind it. -/
theorem extents_span {span : Span} {before body : Sequence} (after : Sequence)
    (hbefore : g.flatSequence? (g.parameter.pieces span.before) = .ok before)
    (hbody : g.sequence? span.interior = .ok body) (next place : Nat) :
    ∃ number, ((before ++ .optional body after).extents next place).map Extent.bounds =
      span.bounds place :: ((body.extents (number + 1) ((span.bounds place).1 + 1)).map Extent.bounds ++
        (after.extents (number + 1 + body.size) ((span.bounds place).2 + 1)).map Extent.bounds) := by
  have hclosing : place + span.before.length + span.interior.length + 2 = (span.bounds place).2 + 1 := by
    rw [Span.bounds]
    omega
  refine ⟨next + before.size, ?_⟩
  rw [Sequence.extents_append, Sequence.extents_of_optionals_eq_nil (optionals_flat hbefore), List.nil_append,
    Sequence.extents, List.map_cons, List.map_append, width_flat hbefore, width_of_read hbody, hclosing]
  rfl

/-- The bounds of the optional segments are the leading pairs of the text. -/
theorem bounds_perm_leadingPairs {t : Text} {s : Sequence} (h : g.sequence? t = .ok s) (next place : Nat) :
    ((s.extents next place).map Extent.bounds).Perm (g.option.leadingPairs place t) := by
  refine sequence?_induction_of_read
    (motive := fun t s => ∀ next place,
      ((s.extents next place).map Extent.bounds).Perm (g.option.leadingPairs place t))
    ?flat ?span h next place
  case flat =>
    intro t s hnone hflat next place
    rw [Sequence.extents_of_optionals_eq_nil (optionals_flat hflat), Brackets.leadingPairs_of_none hnone]
    exact List.Perm.nil
  case span =>
    intro t span before body after hsome hbefore hbody _ ihbody ihafter next place
    obtain ⟨number, hextents⟩ := extents_span after hbefore hbody next place
    rw [hextents, Brackets.leadingPairs_of_some (option_opening_ne_closing g) hsome]
    -- a segment is listed before what is in it, its pair after the pairs that are in it
    exact (((ihbody _ _).append (ihafter _ _)).cons _).trans List.perm_middle.symm

/-! ## Other bounds are text -/

theorem getElem?_append_cases {x t : Text} {k : Nat} {c : Char} (h : (x ++ t)[k]? = some c) :
    x[k]? = some c ∨ ∃ j, k = x.length + j ∧ t[j]? = some c := by
  rcases Nat.lt_or_ge k x.length with hlt | hge
  · rw [List.getElem?_append_left hlt] at h
    exact Or.inl h
  · rw [List.getElem?_append_right hge] at h
    exact Or.inr ⟨k - x.length, by omega, h⟩

/-- A place in a text with a span is in front of the span, one of its bounds, in its interior, or behind it. -/
theorem getElem?_span_cases {b : Brackets} {t : Text} {span : Span} (h : b.firstSpan? t = some span) {k : Nat}
    {c : Char} (hk : t[k]? = some c) :
    span.before[k]? = some c ∨ k = (span.bounds 0).1 ∨ k = (span.bounds 0).2 ∨
      (∃ j, k = (span.bounds 0).1 + 1 + j ∧ span.interior[j]? = some c) ∨
      ∃ j, k = (span.bounds 0).2 + 1 + j ∧ span.after[j]? = some c := by
  have htext : t = span.before ++ ([b.opening] ++ (span.interior ++ ([b.closing] ++ span.after))) := by
    rw [Brackets.firstSpan?_append h]
    simp [Span.text]
  rw [htext] at hk
  simp only [Span.bounds]
  rcases getElem?_append_cases hk with hk | ⟨i, hi, hk⟩
  · exact Or.inl hk
  rcases getElem?_append_cases hk with hk | ⟨i', hi', hk⟩
  · have := (List.getElem?_eq_some_iff.1 hk).1
    rw [List.length_singleton] at this
    exact Or.inr (Or.inl (by omega))
  rw [List.length_singleton] at hi'
  rcases getElem?_append_cases hk with hk | ⟨j, hj, hk⟩
  · exact Or.inr (Or.inr (Or.inr (Or.inl ⟨i', by omega, hk⟩)))
  rcases getElem?_append_cases hk with hk | ⟨j', hj', hk⟩
  · have := (List.getElem?_eq_some_iff.1 hk).1
    rw [List.length_singleton] at this
    exact Or.inr (Or.inr (Or.inl (by omega)))
  · rw [List.length_singleton] at hj'
    exact Or.inr (Or.inr (Or.inr (Or.inr ⟨j', by omega, hk⟩)))

/-- A bound of a text in which no bound is without a partner belongs to a leading pair. -/
theorem mem_leadingPairs_of_unpaired_eq_nil {b : Brackets} {place : Nat} {t : Text}
    (h : (b.pairing place [] t).unpaired = []) {k : Nat} {c : Char} (hk : t[k]? = some c)
    (hc : b.isBound c = true) : ∃ p ∈ b.leadingPairs place t, place + k = p.1 ∨ place + k = p.2 := by
  rw [Brackets.leadingPairs_of_unpaired_eq_nil h]
  refine (Brackets.paired_or_unpaired hk hc).resolve_left ?_
  rw [h]
  exact List.not_mem_nil

end Grammar

/-- The sequence that the text is read as has a front with all of its optional segments. No text in the front holds
an option bound, and the bounds that the front was read from belong to leading pairs. The texts behind it are the
end of the text. -/
structure Sequence.HasFront (b : Brackets) (t : Text) (s front tail : Sequence) : Prop where
  append : s = front ++ tail
  optionals : tail.optionals = []
  free : ∀ u ∈ front.texts, b.Free u
  drop : t.drop front.width = tail.texts.flatten
  paired : ∀ place k c, t[k]? = some c → b.isBound c = true → k < front.width →
    ∃ p ∈ b.leadingPairs place t, place + k = p.1 ∨ place + k = p.2

namespace Grammar

variable {g : Grammar}

/-- The bounds of the segments lie in the front. -/
theorem lt_width_of_mem_leadingPairs {t : Text} {s front tail : Sequence} (h : g.sequence? t = .ok s)
    (hfront : s.HasFront g.option t front tail) {place : Nat} {p : Nat × Nat}
    (hp : p ∈ g.option.leadingPairs place t) : p.1 < p.2 ∧ p.2 < place + front.width := by
  obtain ⟨e, he, rfl⟩ := List.mem_map.1 ((bounds_perm_leadingPairs h 0 place).mem_iff.2 hp)
  rw [hfront.append, Sequence.extents_append, Sequence.extents_of_optionals_eq_nil hfront.optionals,
    List.append_nil] at he
  have hrange := Sequence.extent_range he
  exact ⟨hrange.2.2.2.2.1, hrange.2.2.2.2.2⟩

/-- A text in which no bound is without a partner is read as a sequence whose texts hold no bound. -/
theorem free_texts_of_unpaired_eq_nil {t : Text} {s front tail : Sequence} (h : g.sequence? t = .ok s)
    (hfront : s.HasFront g.option t front tail) {place : Nat} (hpaired : (g.option.pairing place [] t).unpaired = []) :
    ∀ u ∈ s.texts, g.option.Free u := by
  have htail : g.option.Free (t.drop front.width) := by
    intro c hc
    by_contra hbound
    obtain ⟨i, hi⟩ := List.mem_iff_getElem?.1 hc
    rw [List.getElem?_drop] at hi
    obtain ⟨p, hp, hplace⟩ := mem_leadingPairs_of_unpaired_eq_nil hpaired hi (by simpa using hbound)
    have := lt_width_of_mem_leadingPairs h hfront hp
    omega
  intro u hu
  rw [hfront.append, Sequence.texts_append] at hu
  rcases List.mem_append.1 hu with hu | hu
  · exact hfront.free u hu
  · intro c hc
    apply htail
    rw [hfront.drop]
    exact List.mem_flatten_of_mem hu hc

/-- Whatever is read has such a front. -/
theorem exists_hasFront {t : Text} {s : Sequence} (h : g.sequence? t = .ok s) :
    ∃ front tail, s.HasFront g.option t front tail := by
  refine sequence?_induction_of_read (motive := fun t s => ∃ front tail, s.HasFront g.option t front tail)
    ?flat ?span h
  case flat =>
    intro t s _ hflat
    refine ⟨.nil, s, ⟨rfl, optionals_flat hflat, by simp [Sequence.texts], ?_, ?_⟩⟩
    · exact (flatten_texts_flat hflat).symm
    · intro place k c _ _ hlt
      exact absurd hlt (Nat.not_lt_zero k)
  case span =>
    rintro t span before body after hsome hbefore hbody hafter ⟨frontBody, tailBody, ihbody⟩ ⟨front, tail, ihafter⟩
    have hunpaired := (Brackets.pairing_of_firstSpan? (option_opening_ne_closing g) hsome 0).1
    have hwidth : (before ++ .optional body front).width = (span.bounds 0).2 + 1 + front.width := by
      rw [Sequence.width_append, Sequence.width, width_flat hbefore, width_of_read hbody, Span.bounds]
      omega
    refine ⟨before ++ .optional body front, tail, ⟨?_, ihafter.optionals, ?_, ?_, ?_⟩⟩
    · rw [ihafter.append, Sequence.append_assoc, Sequence.optional_append]
    · intro u hu
      rw [Sequence.texts_append, Sequence.texts, List.mem_append, List.mem_cons, List.mem_append] at hu
      rcases hu with hu | rfl | hu | hu
      · -- what stands before the span is a part of a text without bounds
        intro c hc
        apply Brackets.free_before hsome
        rw [← flatten_texts_flat hbefore]
        exact List.mem_flatten_of_mem hu hc
      · exact Brackets.free_nil
      · exact free_texts_of_unpaired_eq_nil hbody ihbody hunpaired u hu
      · exact ihafter.free u hu
    · have hlength : (span.before ++ span.text g.option).length = (span.bounds 0).2 + 1 := by
        simp only [Span.text, Span.bounds, List.length_append, List.length_cons, List.length_nil]
        omega
      rw [hwidth, Brackets.firstSpan?_append hsome, ← hlength, List.drop_length_add_append]
      exact ihafter.drop
    · intro place k c hk hc hlt
      have hopening : (span.bounds place).1 = place + (span.bounds 0).1 := by
        simp only [Span.bounds]
        omega
      have hclosing : (span.bounds place).2 = place + (span.bounds 0).2 := by
        simp only [Span.bounds]
        omega
      rw [hwidth] at hlt
      simp only [Brackets.leadingPairs_of_some (option_opening_ne_closing g) hsome, List.mem_append, List.mem_cons]
      rcases getElem?_span_cases hsome hk with hj | rfl | rfl | ⟨j, rfl, hj⟩ | ⟨j, rfl, hj⟩
      · have hfree := Brackets.free_before hsome c (List.mem_of_getElem? hj)
        rw [hc] at hfree
        simp at hfree
      · exact ⟨_, Or.inr (Or.inl rfl), Or.inl hopening.symm⟩
      · exact ⟨_, Or.inr (Or.inl rfl), Or.inr hclosing.symm⟩
      · have hpaired := (Brackets.pairing_of_firstSpan? (option_opening_ne_closing g) hsome place).1
        obtain ⟨p, hp, hplace⟩ := mem_leadingPairs_of_unpaired_eq_nil hpaired hj hc
        exact ⟨p, Or.inl hp, by omega⟩
      · obtain ⟨p, hp, hplace⟩ := ihafter.paired ((span.bounds place).2 + 1) j c hj hc (by omega)
        exact ⟨p, Or.inr (Or.inr hp), by omega⟩

end Grammar

/-! ## The tree of a template -/

namespace Template

variable {g : Grammar} {template : Template} {front tail : Sequence}

/-- The extents of a template are those of its front. -/
theorem extents_of_hasFront (hfront : template.segments.HasFront g.option template.source front tail) :
    template.extents = front.extents 1 0 := by
  rw [extents, hfront.append, Sequence.extents_append, Sequence.extents_of_optionals_eq_nil hfront.optionals,
    List.append_nil]

/-- The root and the nodes of the front, and behind them those of the rest. -/
theorem outline_of_hasFront (hfront : template.segments.HasFront g.option template.source front tail) :
    template.outline =
      (⟨.root, none, template.segments.childNumbers 1⟩ :: front.nodes 0 1) ++ tail.nodes 0 (1 + front.size) := by
  rw [outline, hfront.append, Sequence.nodes_append, List.cons_append]

/-- The text behind the front is that of the nodes behind it. -/
theorem source_of_hasFront (hfront : template.segments.HasFront g.option template.source front tail) :
    template.source =
      template.source.take front.width ++ (tail.nodes 0 (1 + front.size)).flatMap (·.kind.text) := by
  rw [List.flatMap, Sequence.map_text_nodes, ← hfront.drop, List.take_append_drop]

/-- The root and the nodes of the front hold no option bound. -/
theorem free_of_mem_front (hfront : template.segments.HasFront g.option template.source front tail) {node : Node}
    (hnode : node ∈ ⟨.root, none, template.segments.childNumbers 1⟩ :: front.nodes 0 1) :
    g.option.Free node.kind.text := by
  rcases List.mem_cons.1 hnode with rfl | hnode
  · exact Brackets.free_nil
  · apply hfront.free
    rw [← Sequence.map_text_nodes 0 1]
    exact List.mem_map_of_mem hnode

/-- What is below an optional node belongs to the front. -/
theorem mem_front_of_isBelow (hfront : template.segments.HasFront g.option template.source front tail) {n m : Nat}
    {node : Node} (hbelow : template.IsBelow n m) (hm : m ∈ template.optionalNumbers)
    (hnode : template.outline[n]? = some node) :
    node ∈ ⟨.root, none, template.segments.childNumbers 1⟩ :: front.nodes 0 1 := by
  have hn := (List.getElem?_eq_some_iff.1 hnode).1
  rw [optionalNumbers_eq] at hm
  obtain ⟨e, he, rfl⟩ := List.mem_map.1 hm
  have hcovers := (isBelow_iff_covers he hn).1 hbelow
  rw [extents_of_hasFront hfront] at he
  have hrange := Sequence.extent_range he
  rw [outline_of_hasFront hfront, List.getElem?_append_left] at hnode
  · exact List.mem_of_getElem? hnode
  · have := hcovers.2
    rw [List.length_cons, Sequence.length_nodes]
    omega

end Template

/-- The optional nodes of a template, in the order of their numbers, are the leading pairs of its option bounds in
the order of their opening characters: one is below another exactly if its pair lies inside the other's, and the
depth is the greatest nesting of the pairs. All other option bounds stand behind them, in nodes below the root alone
that hold text. -/
theorem optionals_eq_leadingPairs (g : Grammar) (source : Text) (template : Template)
    (hparse : Template.parse? g source = .ok template) :
    ∃ pairs : List (Nat × Nat),
      (pairs.Perm (g.option.leadingPairs 0 source) ∧ pairs.Pairwise fun p q => p.1 < q.1) ∧
      template.optionalNumbers.length = pairs.length ∧
      (∀ a ∈ template.optionalNumbers.zip pairs, ∀ b ∈ template.optionalNumbers.zip pairs,
        template.IsBelow a.1 b.1 ↔ b.2.1 < a.2.1 ∧ a.2.2 < b.2.2) ∧
      template.depth = Pairing.greatestNesting pairs ∧
      (∃ front head tail, template.outline = head ++ tail ∧ source = front ++ tail.flatMap (·.kind.text) ∧
        (∀ node ∈ tail, node.parent = some 0 ∧
          ((∃ t, node.kind = .literal t) ∨ ∃ token, node.kind = .parameter token)) ∧
        (∀ k c, source[k]? = some c → g.isOptionBound c = true →
          (∃ p ∈ pairs, k = p.1 ∨ k = p.2) ∨ front.length ≤ k) ∧
        ∀ node ∈ head, g.option.Free node.kind.text) ∧
      ∀ n m node, template.IsBelow n m → m ∈ template.optionalNumbers → template.outline[n]? = some node →
        g.option.Free node.kind.text := by
  obtain ⟨rfl, hread⟩ := Template.sequence?_of_parse? hparse
  obtain ⟨front, tail, hfront⟩ := Grammar.exists_hasFront hread
  have hperm := Grammar.bounds_perm_leadingPairs hread 1 0
  refine ⟨template.extents.map Extent.bounds, ⟨hperm, ?sorted⟩, ?count, ?inside, ?depth,
    ⟨template.source.take front.width, _, _, Template.outline_of_hasFront hfront,
      Template.source_of_hasFront hfront, ?behind, ?others, ?free⟩, ?below⟩
  case sorted => exact List.pairwise_map.2 (Sequence.pairwise_extents 1 0 template.segments)
  case count => rw [Template.optionalNumbers_eq, List.length_map, List.length_map]
  case inside =>
    rw [Template.zip_optionalNumbers]
    intro a ha b hb
    obtain ⟨e, he, rfl⟩ := List.mem_map.1 ha
    obtain ⟨f, hf, rfl⟩ := List.mem_map.1 hb
    exact Template.isBelow_iff_encloses he hf
  case depth => exact Sequence.depth_eq_greatestNesting 1 0 template.segments
  case behind => exact fun node => Sequence.nodes_of_optionals_eq_nil hfront.optionals
  case others =>
    intro k c hk hc
    rcases Nat.lt_or_ge k front.width with hlt | hge
    · obtain ⟨p, hp, hplace⟩ := hfront.paired 0 k c hk hc hlt
      rw [Nat.zero_add] at hplace
      exact Or.inl ⟨p, hperm.mem_iff.2 hp, hplace⟩
    · exact Or.inr ((List.length_take_le _ _).trans hge)
  case free => exact fun node => Template.free_of_mem_front hfront
  case below =>
    intro n m node hbelow hm hnode
    exact Template.free_of_mem_front hfront (Template.mem_front_of_isBelow hfront hbelow hm hnode)

/-- Two spans nest before the first bound without a partner. The pair behind that bound is text of the root. -/
theorem optionals_eq_leadingPairs_stray :
    ∃ template, Template.parse? .standard "/a[/b[/c]]]d[/e]".toList = .ok template ∧
      ∃ pairs : List (Nat × Nat), pairs.Perm [(5, 8), (2, 9)] ∧
        template.optionalNumbers.length = pairs.length ∧ template.depth = Pairing.greatestNesting pairs := by
  let inner : Sequence := .literal "/b".toList (.optional (.literal "/c".toList .nil) .nil)
  have hparse : Template.parse? .standard "/a[/b[/c]]]d[/e]".toList =
      .ok ⟨"/a[/b[/c]]]d[/e]".toList, .standard,
        .literal "/a".toList (.optional inner (.literal "]d[/e]".toList .nil))⟩ := by
    decide +kernel
  have hleading : Grammar.standard.option.leadingPairs 0 "/a[/b[/c]]]d[/e]".toList = [(5, 8), (2, 9)] := by decide
  obtain ⟨pairs, ⟨hperm, -⟩, hcount, -, hdepth, -⟩ := optionals_eq_leadingPairs .standard _ _ hparse
  rw [hleading] at hperm
  exact ⟨_, hparse, pairs, hperm, hcount, hdepth⟩

end PathTemplate
