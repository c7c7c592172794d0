/-
# PathTemplate.Proofs.Pruning — pruning a template first and filling it afterwards.

Two texts come out of the same decisions. In the one, kept segments stand filled, and every segment around them fills
them once more; in the other they stand with their tokens in place, and all tokens are filled at the end. Where stray
parameter bounds are all of one kind, no token reaches into a segment or out of it, in the one text as in the other.
Then both are filled to the same text, so a template can be pruned now and filled later.
-/
import PathTemplate.Proofs.Inclusion

namespace PathTemplate

/-- Where no token can end in either of two texts, none can end in both together. -/
theorem Brackets.content?_append_of_none {b : Brackets} {x t : Text} (hx : b.content? x = none)
    (ht : b.content? t = none) : b.content? (x ++ t) = none := by
  by_cases hfree : b.Free x
  · rw [content?_append_of_free hfree, ht]
    rfl
  · exact content?_append_of_not_free hfree hx t

namespace Sequence

variable {g : Grammar} {values : Supply}

/-! ## Pruned text -/

theorem pruned_settle_literal (t : Text) (rest : Sequence) :
    ((literal t rest).settle g values).pruned = t ++ (rest.settle g values).pruned := rfl

theorem pruned_settle_parameter (token : Token) (rest : Sequence) :
    ((parameter token rest).settle g values).pruned = token.raw ++ (rest.settle g values).pruned := rfl

theorem pruned_settle_optional (body rest : Sequence) :
    ((optional body rest).settle g values).pruned =
      if body.isKept g values then (body.settle g values).pruned ++ (rest.settle g values).pruned
      else (rest.settle g values).pruned := by
  rw [settle_optional]
  split <;> rfl

/-- Where no literal text holds a closing bound, pruned text does not begin with the end of a token. -/
theorem content?_pruned_settle {s : Sequence} (hread : s.IsRead g)
    (hclosing : ∀ t ∈ s.literals, g.parameter.closing ∉ t) :
    g.parameter.content? (s.settle g values).pruned = none := by
  induction s with
  | nil => rfl
  | literal t rest ih =>
    rw [pruned_settle_literal]
    exact Brackets.content?_append_of_not_closing (hclosing t List.mem_cons_self)
      (ih hread fun u hu => hclosing u (List.mem_cons_of_mem _ hu))
  | parameter token rest _ =>
    obtain ⟨⟨content, htoken⟩, _⟩ := hread.of_parameter
    rw [pruned_settle_parameter]
    exact Grammar.content?_raw_append htoken _
  | optional body rest ihBody ihRest =>
    have hrest := ihRest hread.of_optional.2 fun t ht => hclosing t (List.mem_append_right _ ht)
    rw [pruned_settle_optional]
    split
    · exact Brackets.content?_append_of_none
        (ihBody hread.of_optional.1 fun t ht => hclosing t (List.mem_append_left _ ht)) hrest
    · exact hrest

/-- Where no literal text holds an opening bound, pruned text does not end in the beginning of a token. -/
theorem not_endsOpen_pruned_settle {s : Sequence} (hread : s.IsRead g)
    (hopening : ∀ t ∈ s.literals, g.parameter.opening ∉ t) :
    ¬ g.parameter.EndsOpen (s.settle g values).pruned := by
  induction s with
  | nil => exact Brackets.not_endsOpen_of_not_mem List.not_mem_nil
  | literal t rest ih =>
    intro h
    rw [pruned_settle_literal] at h
    rcases h.of_append with h | ⟨-, h⟩
    · exact ih hread (fun u hu => hopening u (List.mem_cons_of_mem _ hu)) h
    · exact Brackets.not_endsOpen_of_not_mem (hopening t List.mem_cons_self) h
  | parameter token rest ih =>
    obtain ⟨⟨content, htoken⟩, hrest⟩ := hread.of_parameter
    rw [pruned_settle_parameter, Grammar.raw_of_token? htoken.2]
    exact Brackets.not_endsOpen_raw_append g.parameter_opening_ne_closing (ih hrest hopening)
  | optional body rest ihBody ihRest =>
    have hrest := ihRest hread.of_optional.2 fun t ht => hopening t (List.mem_append_right _ ht)
    rw [pruned_settle_optional]
    split
    · intro h
      rcases h.of_append with h | ⟨-, h⟩
      · exact hrest h
      · exact ihBody hread.of_optional.1 (fun t ht => hopening t (List.mem_append_left _ ht)) h
    · exact hrest

/-- No token reaches from a literal text into the pruned text behind it. -/
theorem OneSided.literal_apart_pruned {t : Text} {rest : Sequence} (hside : (literal t rest).OneSided g)
    (hread : rest.IsRead g) :
    g.parameter.opening ∉ t ∨
      (g.parameter.closing ∉ t ∧ g.parameter.content? (rest.settle g values).pruned = none) := by
  refine hside.imp (fun h => h t List.mem_cons_self) fun h => ⟨h t List.mem_cons_self, ?_⟩
  exact content?_pruned_settle hread fun u hu => h u (List.mem_cons_of_mem _ hu)

/-- No token reaches from a kept segment into the pruned text behind it. -/
theorem OneSided.optional_apart_pruned {body rest : Sequence} (hside : (optional body rest).OneSided g)
    (hread : (optional body rest).IsRead g) :
    ¬ g.parameter.EndsOpen (body.settle g values).pruned ∨
      g.parameter.content? (rest.settle g values).pruned = none := by
  refine hside.imp (fun h => ?_) fun h => ?_
  · exact not_endsOpen_pruned_settle hread.of_optional.1 fun t ht => h t (List.mem_append_left _ ht)
  · exact content?_pruned_settle hread.of_optional.2 fun t ht => h t (List.mem_append_right _ ht)

/-- Filling pruned text fills the sequence's own tokens and those of its kept segments. -/
theorem substitute_pruned_settle {s : Sequence} (hread : s.IsRead g) (hside : s.OneSided g) :
    g.substitute values (s.settle g values).pruned = s.filling g values := by
  induction s with
  | nil => simp [settle, Settled.empty, Grammar.substitute, filling]
  | literal t rest ih =>
    rw [pruned_settle_literal, Grammar.substitute_append (hside.literal_apart_pruned hread), ih hread hside.of_literal,
      filling]
  | parameter token rest ih =>
    obtain ⟨⟨content, htoken⟩, hrest⟩ := hread.of_parameter
    rw [pruned_settle_parameter, Grammar.substitute_token_append htoken, ih hrest hside, filling]
  | optional body rest ihBody ihRest =>
    obtain ⟨hreadBody, hreadRest⟩ := hread.of_optional
    obtain ⟨hsideBody, hsideRest⟩ := hside.of_optional
    rw [pruned_settle_optional, filling, Grammar.spliced, substitute_filled_settle hreadBody hsideBody, isKept,
      substitute_filled_settle hreadBody hsideBody]
    split
    · -- a kept segment is filled now as it was when it was decided to keep it
      rw [Grammar.substitute_append_of_apart (hside.optional_apart_pruned hread), ihBody hreadBody hsideBody,
        ihRest hreadRest hsideRest]
    · rw [ihRest hreadRest hsideRest, List.nil_append]

end Sequence

/-! ## Pruning, then filling -/

namespace Grammar

theorem prune_of_parse? {g : Grammar} {source : Text} {template : Template} (values : Supply)
    (h : Template.parse? g source = .ok template) :
    g.prune source values = .ok (template.segments.settle g values).pruned := by
  rw [prune, h]
  rfl

end Grammar

/-- Where no token can enclose a segment, to fill a pruned template is to reverse it: the result is the path if it
holds no bound, and otherwise there is none. -/
theorem reverse_eq_substitute_prune (g : Grammar) (source : Text) (values : Supply) (template : Template)
    (hparse : Template.parse? g source = .ok template) (hside : template.segments.OneSided g) :
    ∃ pruned, g.prune source values = .ok pruned ∧
      g.reverse source values =
        if g.containsBound (g.substitute values pruned) then
          .error (.irreversible source (template.requiredNames.filter fun name => !values.supplies name))
        else .ok (g.substitute values pruned) := by
  refine ⟨_, Grammar.prune_of_parse? values hparse, ?_⟩
  obtain ⟨segments, hsegments, rfl⟩ := Template.parse?_eq_ok_iff.1 hparse
  have hread : segments.IsRead g := Grammar.reads_of_mem_tokens hsegments
  have hreversed : g.isReversed (segments.filling g values) = segments.isComplete g values :=
    Sequence.isReversed_filling hread
  rw [Grammar.isReversed] at hreversed
  rw [Grammar.reverse_eq_ite values hparse hside, Sequence.substitute_pruned_settle hread hside]
  dsimp only
  rw [← hreversed]
  cases hbound : g.containsBound (segments.filling g values) with
  | true => rfl
  | false =>
    rw [hbound] at hreversed
    rw [Sequence.filling_eq_expand hread hside hreversed.symm]
    rfl

/-- Of two segments one inside the other, the inner one is dropped because its value holds a bound. A stray bound
drops a third segment, and the value of a token behind them holds a bound that no segment is there to be dropped for. -/
theorem reverse_eq_substitute_prune_bounds :
    ∃ template, Template.parse? .standard "/a[/{b}[/{c}]][\x7dx]/{d}".toList = .ok template ∧
      template.segments.OneSided .standard ∧
      Grammar.standard.prune "/a[/{b}[/{c}]][\x7dx]/{d}".toList
        (.ofPairs [("b".toList, "1".toList), ("c".toList, "\x7b".toList), ("d".toList, "[".toList)]) =
          .ok "/a/{b}/{d}".toList ∧
      Grammar.standard.reverse "/a[/{b}[/{c}]][\x7dx]/{d}".toList
        (.ofPairs [("b".toList, "1".toList), ("c".toList, "\x7b".toList), ("d".toList, "[".toList)]) =
          .error (.irreversible "/a[/{b}[/{c}]][\x7dx]/{d}".toList []) := by
  let source : Text := "/a[/{b}[/{c}]][\x7dx]/{d}".toList
  let values : Supply := .ofPairs [("b".toList, "1".toList), ("c".toList, "\x7b".toList), ("d".toList, "[".toList)]
  have hparse : Template.parse? .standard source = .ok ⟨source, .standard,
      .literal "/a".toList (.optional
        (.literal "/".toList (.parameter ⟨"b".toList, none, "{b}".toList⟩ (.optional
          (.literal "/".toList (.parameter ⟨"c".toList, none, "{c}".toList⟩ .nil)) .nil)))
        (.optional (.literal "\x7dx".toList .nil)
          (.literal "/".toList (.parameter ⟨"d".toList, none, "{d}".toList⟩ .nil))))⟩ := by
    decide +kernel
  have hprune : Grammar.standard.prune source values = .ok "/a/{b}/{d}".toList := by decide +kernel
  obtain ⟨pruned, hpruned, hreverse⟩ :=
    reverse_eq_substitute_prune .standard source values _ hparse (Or.inl (by decide))
  obtain rfl := Except.ok.inj (hprune.symm.trans hpruned)
  exact ⟨_, hparse, Or.inl (by decide), hprune, hreverse.trans (by decide +kernel)⟩

end PathTemplate
