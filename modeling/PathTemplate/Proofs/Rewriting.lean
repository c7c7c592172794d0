/-
# PathTemplate.Proofs.Rewriting — reversing a template by rewriting its text.

The rule for going back from a template to a path can be told without a tree. Take the first span of the text.
Settle its interior in the same way and fill the tokens of what results. If no bound is left, put that text in
the place of the span, otherwise nothing, and start again from the beginning of the new text.

`rewrite` is this rule. The tree of a template is read once and never read again, and tokens are filled only
after the segments around them are settled. That both come to the same path is `reverse_iff_rewrite`.
-/
import Mathlib.Control.Monad.Basic
import PathTemplate.Proofs.Reading
import PathTemplate.Reverse

namespace PathTemplate

namespace Grammar

variable {g : Grammar} {values : Supply}

/-! ## The rule on text -/

/-- The text that takes the place of a span with the given settled interior. -/
def spliced (g : Grammar) (values : Supply) (interior : Text) : Text :=
  if g.isReversed (g.substitute values interior) then g.substitute values interior else []

/-- What has no bound at all has no bound of an optional segment. -/
theorem free_of_isReversed {t : Text} (h : g.isReversed t = true) : g.option.Free t := by
  intro c hc
  have hnone : g.isBound c = false := by
    simp only [isReversed, containsBound, Bool.not_eq_true', List.any_eq_false] at h
    simpa using h c hc
  simp only [isBound, Bool.or_eq_false_iff] at hnone
  exact hnone.1

theorem free_spliced (interior : Text) : g.option.Free (g.spliced values interior) := by
  unfold spliced
  split
  · rename_i h
    exact free_of_isReversed h
  · exact Brackets.free_nil

/-- The text once no span is left in it. -/
def rewrite (g : Grammar) (values : Supply) (t : Text) : Text :=
  match _h : g.option.firstSpan? t with
  | none => t
  | some span =>
    g.rewrite values (span.before ++ g.spliced values (g.rewrite values span.interior) ++ span.after)
termination_by t.count g.option.opening
decreasing_by
  · have := Brackets.count_opening_span _h
    omega
  · have := Brackets.count_opening_span _h
    have hbefore := Brackets.count_opening_of_free (Brackets.free_before _h)
    rw [List.count_append, List.count_append, hbefore,
      Brackets.count_opening_of_free (free_spliced _)]
    omega

theorem rewrite_of_none {t : Text} (h : g.option.firstSpan? t = none) : g.rewrite values t = t := by
  rw [rewrite]
  split
  · rfl
  · rename_i hsome
    rw [h] at hsome
    simp at hsome

theorem rewrite_of_some {t : Text} {span : Span} (h : g.option.firstSpan? t = some span) :
    g.rewrite values t =
      g.rewrite values
        (span.before ++ g.spliced values (g.rewrite values span.interior) ++ span.after) := by
  rw [rewrite]
  split
  · rename_i hnone
    rw [h] at hnone
    simp at hnone
  · rename_i hsome
    rw [h] at hsome
    obtain rfl := Option.some.inj hsome
    rfl

/-- Text without bounds in front is left alone. Starting again from the beginning therefore does no more than
going on behind the place of the span. -/
theorem rewrite_append_of_free {x : Text} (hx : g.option.Free x) (t : Text) :
    g.rewrite values (x ++ t) = x ++ g.rewrite values t := by
  cases h : g.option.firstSpan? t with
  | none =>
    have hnone : g.option.firstSpan? (x ++ t) = none := by
      rw [Brackets.firstSpan?_append_of_free hx, h]
      rfl
    rw [rewrite_of_none h, rewrite_of_none hnone]
  | some span =>
    have hsome : g.option.firstSpan? (x ++ t) = some { span with before := x ++ span.before } := by
      rw [Brackets.firstSpan?_append_of_free hx, h]
      rfl
    -- both texts lose the span in one round, and what is put in its place has no bounds either
    have hcount := Brackets.count_opening_span h
    have hfront : g.option.Free (span.before ++ g.spliced values (g.rewrite values span.interior)) :=
      Brackets.free_append.2 ⟨Brackets.free_before h, free_spliced _⟩
    rw [rewrite_of_some h, rewrite_of_some hsome, rewrite_append_of_free hfront,
      List.append_assoc x, rewrite_append_of_free (Brackets.free_append.2 ⟨hx, hfront⟩),
      List.append_assoc]
termination_by t.count g.option.opening
decreasing_by all_goals omega

/-- One round of the rule: the text before the span and the text in the span's place are settled for good. -/
theorem rewrite_eq_append {t : Text} {span : Span} (h : g.option.firstSpan? t = some span) :
    g.rewrite values t =
      span.before ++ g.spliced values (g.rewrite values span.interior) ++ g.rewrite values span.after := by
  rw [rewrite_of_some h]
  exact rewrite_append_of_free (Brackets.free_append.2 ⟨Brackets.free_before h, free_spliced _⟩) _

/-! ## The rule on the tree -/

/-- Flat text in front of a sequence stands unchanged in front of what the sequence is settled to. -/
theorem filled_settle_flat (values : Supply) {ps : List Piece} {s : Sequence} (h : g.flatSequence? ps = .ok s)
    (r : Sequence) :
    ((s ++ r).settle g values).filled =
      ps.flatMap (Piece.raw g.parameter) ++ (r.settle g values).filled := by
  refine flatSequence?_induction
    (motive := fun ps s => ((s ++ r).settle g values).filled =
      ps.flatMap (Piece.raw g.parameter) ++ (r.settle g values).filled) ?nil ?text ?token h
  case nil => rfl
  case text =>
    intro t ps s ih
    rw [Sequence.literal_append, Sequence.settle, Settled.attach, ih, List.flatMap_cons, List.append_assoc]
    rfl
  case token =>
    intro content token ps s htoken ih
    rw [Sequence.parameter_append, Sequence.settle, Settled.attach, ih, List.flatMap_cons,
      List.append_assoc, raw_of_token? htoken]

/-- An optional segment is settled as the rule treats a span. -/
theorem filled_settle_optional (body rest : Sequence) :
    ((Sequence.optional body rest).settle g values).filled =
      g.spliced values (body.settle g values).filled ++ (rest.settle g values).filled := by
  rw [Sequence.settle]
  unfold spliced
  split <;> rfl

/-- A tree is settled to what the rule makes of its text. -/
theorem filled_settle_eq_rewrite {t : Text} {s : Sequence} (h : g.sequence? t = .ok s) :
    (s.settle g values).filled = g.rewrite values t := by
  -- the tree is read from left to right, and so does the rule go on behind a span
  refine sequence?_induction
    (motive := fun t s => (s.settle g values).filled = g.rewrite values t) ?flat ?span h
  case flat =>
    intro t s hnone hflat
    have hfilled := filled_settle_flat values hflat .nil
    rw [Sequence.append_nil, Brackets.flatMap_raw_pieces] at hfilled
    rw [hfilled, rewrite_of_none hnone]
    exact List.append_nil t
  case span =>
    intro t span before body after hsome hbefore ihbody ihafter
    rw [filled_settle_flat values hbefore, Brackets.flatMap_raw_pieces, filled_settle_optional, ihbody, ihafter,
      rewrite_eq_append hsome, List.append_assoc]

/-- The result of reversing a template that has been read, in terms of the text that its tokens are filled to. -/
theorem reverse_of_parse? {source : Text} {template : Template} (h : Template.parse? g source = .ok template) :
    g.reverse source values = g.reverseTemplate template values := by
  rw [reverse, h]
  rfl

/-- Reversing a template gives the text that rewriting and filling give, and fails exactly if a bound is left
in that text. -/
theorem reverse_iff_rewrite (g : Grammar) (source : Text) (values : Supply) (template : Template)
    (hparse : Template.parse? g source = .ok template) :
    (∀ path, g.reverse source values = .ok path ↔
      path = g.substitute values (g.rewrite values source) ∧ g.containsBound path = false) ∧
    ((∃ names, g.reverse source values = .error (.irreversible source names)) ↔
      g.containsBound (g.substitute values (g.rewrite values source)) = true) := by
  obtain ⟨segments, hsegments, rfl⟩ := Template.parse?_eq_ok_iff.1 hparse
  rw [reverse_of_parse? hparse, reverseTemplate, filled_settle_eq_rewrite hsegments]
  cases hbound : g.containsBound (g.substitute values (g.rewrite values source)) with
  | false =>
    have hreversed : g.isReversed (g.substitute values (g.rewrite values source)) = true := by
      rw [isReversed, hbound]
      rfl
    rw [if_pos hreversed]
    refine ⟨fun path => ⟨?_, ?_⟩, by simp⟩
    · intro h
      obtain rfl := Except.ok.inj h
      exact ⟨rfl, hbound⟩
    · rintro ⟨rfl, _⟩
      rfl
  | true =>
    have hreversed : ¬ g.isReversed (g.substitute values (g.rewrite values source)) = true := by
      rw [isReversed, hbound]
      simp
    rw [if_neg hreversed]
    refine ⟨fun path => ⟨by simp, ?_⟩, by simp⟩
    rintro ⟨rfl, hfree⟩
    rw [hbound] at hfree
    simp at hfree

/-- A token that forms around a kept segment, and a segment that is dropped. -/
theorem reverse_token_around_segment :
    Template.parse? .standard "/x/{a[b]}[/{c}]".toList =
      .ok ⟨"/x/{a[b]}[/{c}]".toList, .standard,
        .literal "/x/\x7ba".toList (.optional (.literal "b".toList .nil) (.literal "\x7d".toList
          (.optional (.literal "/".toList (.parameter ⟨"c".toList, none, "{c}".toList⟩ .nil)) .nil)))⟩ ∧
    standard.reverse "/x/{a[b]}[/{c}]".toList (.ofPairs [("ab".toList, "v".toList)]) =
      .ok "/x/v".toList := by
  have hparse : Template.parse? .standard "/x/{a[b]}[/{c}]".toList =
      .ok ⟨"/x/{a[b]}[/{c}]".toList, .standard,
        .literal "/x/\x7ba".toList (.optional (.literal "b".toList .nil) (.literal "\x7d".toList
          (.optional (.literal "/".toList (.parameter ⟨"c".toList, none, "{c}".toList⟩ .nil)) .nil)))⟩ := by
    decide +kernel
  refine ⟨hparse, ?_⟩
  exact ((reverse_iff_rewrite .standard _ _ _ hparse).1 "/x/v".toList).2 (by decide +kernel)

end Grammar

end PathTemplate
