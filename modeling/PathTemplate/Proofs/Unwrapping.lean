/-
# PathTemplate.Proofs.Unwrapping — pruned text has no span.

Pruning takes the bounds of kept segments away and puts their insides next to text that stood behind them, where stray
bounds may be left. No new span forms. All spans stand before the first stray bound, and in the interior of a span every
bound has a partner, so what is taken out of a span holds no bound at all. Only the text behind the last span may hold
some, and there is no span in it.

A template is therefore pruned once and for all: pruned again, with whatever values, it stays as it is.
-/
import PathTemplate.Proofs.Pruning
import PathTemplate.Proofs.Structure

namespace PathTemplate

namespace Sequence

variable {g : Grammar} {values : Supply}

/-- What is pruned from texts without option bounds holds none. -/
theorem free_pruned_settle {s : Sequence} (hfree : ∀ u ∈ s.texts, g.option.Free u) :
    g.option.Free (s.settle g values).pruned := by
  induction s with
  | nil => exact Brackets.free_nil
  | literal t rest ih =>
    rw [pruned_settle_literal]
    exact Brackets.free_append.2 ⟨hfree t List.mem_cons_self, ih fun u hu => hfree u (List.mem_cons_of_mem _ hu)⟩
  | parameter token rest ih =>
    rw [pruned_settle_parameter]
    exact Brackets.free_append.2
      ⟨hfree token.raw List.mem_cons_self, ih fun u hu => hfree u (List.mem_cons_of_mem _ hu)⟩
  | optional body rest ihBody ihRest =>
    have hbody := ihBody fun u hu => hfree u (List.mem_cons_of_mem _ (List.mem_append_left _ hu))
    have hrest := ihRest fun u hu => hfree u (List.mem_cons_of_mem _ (List.mem_append_right _ hu))
    rw [pruned_settle_optional]
    split
    · exact Brackets.free_append.2 ⟨hbody, hrest⟩
    · exact hrest

end Sequence

namespace Grammar

variable {g : Grammar} {values : Supply}

/-- Flat text in front of a sequence stands unchanged in front of what the sequence is pruned to. -/
theorem pruned_settle_flat (values : Supply) {ps : List Piece} {s : Sequence} (h : g.flatSequence? ps = .ok s)
    (r : Sequence) :
    ((s ++ r).settle g values).pruned = ps.flatMap (Piece.raw g.parameter) ++ (r.settle g values).pruned := by
  refine flatSequence?_induction
    (motive := fun ps s => ((s ++ r).settle g values).pruned =
      ps.flatMap (Piece.raw g.parameter) ++ (r.settle g values).pruned) ?nil ?text ?token h
  case nil => rfl
  case text =>
    intro t ps s ih
    rw [Sequence.literal_append, Sequence.pruned_settle_literal, ih, List.flatMap_cons, List.append_assoc]
    rfl
  case token =>
    intro content token ps s htoken ih
    rw [Sequence.parameter_append, Sequence.pruned_settle_parameter, ih, List.flatMap_cons, List.append_assoc,
      raw_of_token? htoken]

/-- Flat text is pruned to itself. -/
theorem pruned_settle_pieces (values : Supply) {t : Text} {s : Sequence}
    (h : g.flatSequence? (g.parameter.pieces t) = .ok s) : (s.settle g values).pruned = t := by
  have hpruned := pruned_settle_flat values h .nil
  rw [Sequence.append_nil, Brackets.flatMap_raw_pieces] at hpruned
  exact hpruned.trans (List.append_nil t)

/-- In the interior of a span every bound has a partner, so no text in it holds one. -/
theorem free_texts_interior {t : Text} {span : Span} {body : Sequence} (h : g.option.firstSpan? t = some span)
    (hbody : g.sequence? span.interior = .ok body) : ∀ u ∈ body.texts, g.option.Free u := by
  obtain ⟨front, tail, hfront⟩ := exists_hasFront hbody
  have hpaired := (Brackets.pairing_of_firstSpan? (option_opening_ne_closing g) h 0).1
  exact free_texts_of_unpaired_eq_nil hbody hfront hpaired

/-- Whatever is read is pruned to a text without a span. -/
theorem firstSpan?_pruned_settle (values : Supply) {t : Text} {s : Sequence} (h : g.sequence? t = .ok s) :
    g.option.firstSpan? (s.settle g values).pruned = none := by
  refine sequence?_induction_of_read
    (motive := fun _ s => g.option.firstSpan? (s.settle g values).pruned = none) ?flat ?span h
  case flat =>
    intro t s hnone hflat
    rw [pruned_settle_pieces values hflat]
    exact hnone
  case span =>
    intro t span before body after hsome hbefore hbody _ _ ihafter
    have hkept : g.option.Free (body.settle g values).pruned :=
      Sequence.free_pruned_settle (free_texts_interior hsome hbody)
    rw [pruned_settle_flat values hbefore, Brackets.flatMap_raw_pieces,
      Brackets.firstSpan?_append_of_free (Brackets.free_before hsome), Sequence.pruned_settle_optional]
    split
    · -- the kept segment brings no bound with it, so the text behind it is scanned as before
      rw [Brackets.firstSpan?_append_of_free hkept, ihafter]
      rfl
    · rw [ihafter]
      rfl

end Grammar

/-! ## Templates without a span -/

namespace Template

variable {g : Grammar} {source : Text} {template : Template}

theorem flatSequence?_of_parse? (hnone : g.option.firstSpan? source = none)
    (hparse : Template.parse? g source = .ok template) :
    g.flatSequence? (g.parameter.pieces source) = .ok template.segments := by
  obtain ⟨rfl, hread⟩ := sequence?_of_parse? hparse
  rwa [Grammar.sequence?_of_none hnone] at hread

theorem kind_ne_optional_of_firstSpan?_eq_none (hnone : g.option.firstSpan? source = none)
    (hparse : Template.parse? g source = .ok template) : ∀ node ∈ template.outline, node.kind ≠ .optional := by
  have hoptionals := Grammar.optionals_flat (flatSequence?_of_parse? hnone hparse)
  intro node hnode hkind
  rcases List.mem_cons.1 hnode with rfl | hnode
  · simp at hkind
  · obtain ⟨-, ⟨t, ht⟩ | ⟨token, ht⟩⟩ := Sequence.nodes_of_optionals_eq_nil hoptionals hnode
    · simp [hkind] at ht
    · simp [hkind] at ht

theorem prune_of_firstSpan?_eq_none (hnone : g.option.firstSpan? source = none)
    (hparse : Template.parse? g source = .ok template) (values : Supply) : g.prune source values = .ok source := by
  rw [Grammar.prune_of_parse? values hparse,
    Grammar.pruned_settle_pieces values (flatSequence?_of_parse? hnone hparse)]

end Template

/-- No span is left in a pruned template. Where it can be read again, its tree has no optional node, and no values
prune it any further. -/
theorem firstSpan?_prune (g : Grammar) (source : Text) (values : Supply) (template : Template)
    (hparse : Template.parse? g source = .ok template) :
    ∃ pruned, g.prune source values = .ok pruned ∧ g.option.firstSpan? pruned = none ∧
      ∀ again, Template.parse? g pruned = .ok again →
        (∀ node ∈ again.outline, node.kind ≠ .optional) ∧ ∀ later, g.prune pruned later = .ok pruned := by
  have hnone := Grammar.firstSpan?_pruned_settle values (Template.sequence?_of_parse? hparse).2
  refine ⟨_, Grammar.prune_of_parse? values hparse, hnone, fun again hagain => ⟨?_, ?_⟩⟩
  · exact Template.kind_ne_optional_of_firstSpan?_eq_none hnone hagain
  · exact Template.prune_of_firstSpan?_eq_none hnone hagain

/-- Two kept segments lose their bounds and a third one is dropped, but the stray bound behind them stays, and hides
what looks like a span. -/
theorem firstSpan?_prune_stray :
    ∃ template again, Template.parse? .standard "/a[/b[/{x}]][y\x7b]]/c[d]".toList = .ok template ∧
      Grammar.standard.prune "/a[/b[/{x}]][y\x7b]]/c[d]".toList (.ofPairs [("x".toList, "1".toList)]) =
        .ok "/a/b/{x}]/c[d]".toList ∧
      Grammar.standard.option.firstSpan? "/a/b/{x}]/c[d]".toList = none ∧
      Template.parse? .standard "/a/b/{x}]/c[d]".toList = .ok again ∧
      (∀ node ∈ again.outline, node.kind ≠ .optional) ∧
      ∀ later, Grammar.standard.prune "/a/b/{x}]/c[d]".toList later = .ok "/a/b/{x}]/c[d]".toList := by
  let source : Text := "/a[/b[/{x}]][y\x7b]]/c[d]".toList
  let text : Text := "/a/b/{x}]/c[d]".toList
  let token : Token := ⟨"x".toList, none, "{x}".toList⟩
  have hparse : Template.parse? .standard source = .ok ⟨source, .standard,
      .literal "/a".toList (.optional
        (.literal "/b".toList (.optional (.literal "/".toList (.parameter token .nil)) .nil))
        (.optional (.literal "y\x7b".toList .nil) (.literal "]/c[d]".toList .nil)))⟩ := by
    decide +kernel
  have hagain : Template.parse? .standard text = .ok ⟨text, .standard,
      .literal "/a/b/".toList (.parameter token (.literal "]/c[d]".toList .nil))⟩ := by
    decide +kernel
  have hprune : Grammar.standard.prune source (.ofPairs [("x".toList, "1".toList)]) = .ok text := by decide +kernel
  obtain ⟨pruned, hpruned, hnone, hfinal⟩ := firstSpan?_prune .standard source _ _ hparse
  obtain rfl := Except.ok.inj (hprune.symm.trans hpruned)
  exact ⟨_, _, hparse, hprune, hnone, hagain, hfinal _ hagain⟩

end PathTemplate
