/-
# PathTemplate.Proofs.Inclusion — more values keep more segments, unless a token encloses a segment.

A token may enclose a segment. What it asks for then depends on whether the segment is kept: `{a[{x}]}` asks for
`a` without a value of `x`, and for another name with one. So a value more can take a segment away, and
`exists_isKept_lost` is the smallest case of that.

Nothing else takes segments away. Where no segment stands between an opening parameter bound and a closing one as its
nearest bounds on either side, the tokens of a sequence are the same whichever of its segments are kept. Such a
sequence stays kept when values are added.
-/
import PathTemplate.Proofs.Reversal

namespace PathTemplate

namespace Sequence

@[simp] theorem ownText_append (r s : Sequence) : (r ++ s).ownText = r.ownText ++ s.ownText := by
  induction r with
  | nil => rfl
  | literal t rest ih => rw [literal_append, ownText, ownText, ih, List.append_assoc]
  | parameter token rest ih => rw [parameter_append, ownText, ownText, ih, List.append_assoc]
  | optional body rest _ ih => rw [optional_append, ownText, ownText, ih]

@[simp] theorem optionals_append (r s : Sequence) : (r ++ s).optionals = r.optionals ++ s.optionals := by
  induction r with
  | nil => rfl
  | literal t rest ih => rw [literal_append, optionals, optionals, ih]
  | parameter token rest ih => rw [parameter_append, optionals, optionals, ih]
  | optional body rest _ ih => rw [optional_append, optionals, optionals, ih, List.cons_append, List.append_assoc]

theorem filling_append (g : Grammar) (values : Supply) (r s : Sequence) :
    (r ++ s).filling g values = r.filling g values ++ s.filling g values := by
  induction r with
  | nil => rfl
  | literal t rest ih => rw [literal_append, filling, filling, ih, List.append_assoc]
  | parameter token rest ih => rw [parameter_append, filling, filling, ih, List.append_assoc]
  | optional body rest _ ih => rw [optional_append, filling, filling, ih, List.append_assoc]

/-! ## Sequences whose tokens enclose no segment -/

/-- No token encloses a segment of the sequence: of the parameter bounds in the sequence's own text, the last one
before the segment is not an opening one, or the first one behind it is not a closing one. -/
def TokensApart (g : Grammar) (s : Sequence) : Prop :=
  ∀ front body rest, s = front ++ optional body rest →
    ¬ g.parameter.EndsOpen front.ownText ∨ g.parameter.content? rest.ownText = none

theorem TokensApart.of_append {g : Grammar} {front body rest : Sequence}
    (h : (front ++ optional body rest).TokensApart g) : rest.TokensApart g := by
  rintro front' body' rest' rfl
  have heq : front ++ optional body (front' ++ optional body' rest') =
      (front ++ optional body front') ++ optional body' rest' := by
    rw [append_assoc, optional_append]
  -- the last bound before a segment of the rest is also the last one before it in the whole sequence
  refine (h _ _ _ heq).imp_left fun h hopen => h ?_
  rw [ownText_append]
  exact hopen.append front.ownText

theorem not_endsOpen_ownText {g : Grammar} {s : Sequence} (hread : s.IsRead g)
    (hopening : ∀ t ∈ s.literals, g.parameter.opening ∉ t) : ¬ g.parameter.EndsOpen s.ownText := by
  induction s with
  | nil => exact Brackets.not_endsOpen_of_not_mem List.not_mem_nil
  | literal t rest ih =>
    intro h
    rcases h.of_append with h | ⟨-, h⟩
    · exact ih hread (fun u hu => hopening u (List.mem_cons_of_mem _ hu)) h
    · exact Brackets.not_endsOpen_of_not_mem (hopening t List.mem_cons_self) h
  | parameter token rest ih =>
    obtain ⟨⟨content, htoken⟩, hrest⟩ := hread.of_parameter
    rw [ownText, Grammar.raw_of_token? htoken.2]
    exact Brackets.not_endsOpen_raw_append g.parameter_opening_ne_closing (ih hrest hopening)
  | optional body rest _ ih => exact ih hread.of_optional.2 fun u hu => hopening u (List.mem_append_right _ hu)

theorem literals_append (r s : Sequence) : (r ++ s).literals = r.literals ++ s.literals := by
  induction r with
  | nil => rfl
  | literal t rest ih => rw [literal_append, literals, literals, ih, List.cons_append]
  | parameter token rest ih => rw [parameter_append, literals, literals, ih]
  | optional body rest _ ih => rw [optional_append, literals, literals, ih, List.append_assoc]

/-- Stray bounds of one kind make no tokens, so none that encloses a segment. -/
theorem OneSided.tokensApart {g : Grammar} {s : Sequence} (hside : s.OneSided g) (hread : s.IsRead g) :
    s.TokensApart g := by
  rintro front body rest rfl
  have hfront : front.IsRead g := fun token htoken => hread token (by simp [htoken])
  have hrest : rest.IsRead g := fun token htoken => hread token (by simp [tokens, htoken])
  rw [OneSided, literals_append, literals] at hside
  refine hside.imp (fun h => not_endsOpen_ownText hfront fun t ht => h t ?_)
    fun h => content?_ownText hrest fun t ht => h t ?_
  · exact List.mem_append_left _ ht
  · exact List.mem_append_right _ (List.mem_append_right _ ht)

end Sequence

namespace Grammar

variable {g : Grammar} {values : Supply}

/-! ## Flat text -/

theorem ownText_flat {t : Text} {s : Sequence} (h : g.flatSequence? (g.parameter.pieces t) = .ok s) :
    s.ownText = t := by
  have hraw : s.ownText = (g.parameter.pieces t).flatMap (Piece.raw g.parameter) := by
    refine flatSequence?_induction (motive := fun ps s => s.ownText = ps.flatMap (Piece.raw g.parameter))
      ?nil ?text ?token h
    case nil => rfl
    case text =>
      intro t ps s ih
      rw [Sequence.ownText, ih]
      rfl
    case token =>
      intro content token ps s htoken ih
      rw [Sequence.ownText, ih, raw_of_token? htoken]
      rfl
  rw [hraw, Brackets.flatMap_raw_pieces]

theorem optionals_flat {ps : List Piece} {s : Sequence} (h : g.flatSequence? ps = .ok s) : s.optionals = [] := by
  refine flatSequence?_induction (motive := fun _ s => s.optionals = []) ?nil ?text ?token h
  case nil => rfl
  case text => exact fun _ _ _ ih => ih
  case token => exact fun _ _ _ _ _ ih => ih

theorem filling_flat {ps : List Piece} {s : Sequence} (h : g.flatSequence? ps = .ok s) :
    s.filling g values = ps.flatMap (g.fillPiece values) := by
  refine flatSequence?_induction
    (motive := fun ps s => s.filling g values = ps.flatMap (g.fillPiece values)) ?nil ?text ?token h
  case nil => rfl
  case text =>
    intro t ps s ih
    rw [Sequence.filling, ih, List.flatMap_cons, fillPiece]
  case token =>
    intro content token ps s htoken ih
    rw [Sequence.filling, ih, List.flatMap_cons, fillPiece, htoken, raw_of_token? htoken]

/-! ## What is read -/

/-- The body of a segment is what some text is read as. -/
theorem exists_sequence?_of_mem_optionals {t : Text} {s body : Sequence} (h : g.sequence? t = .ok s)
    (hbody : body ∈ s.optionals) : ∃ u, g.sequence? u = .ok body := by
  refine sequence?_induction_of_read (motive := fun _ s => ∀ body ∈ s.optionals, ∃ u, g.sequence? u = .ok body)
    ?flat ?span h body hbody
  case flat =>
    intro t s _ hflat
    rw [optionals_flat hflat]
    simp
  case span =>
    intro t span before body after _ hbefore hbody _ ihbody ihafter inner hinner
    rw [Sequence.optionals_append, optionals_flat hbefore, List.nil_append, Sequence.optionals, List.mem_cons,
      List.mem_append] at hinner
    rcases hinner with rfl | hinner | hinner
    · exact ⟨_, hbody⟩
    · exact ihbody inner hinner
    · exact ihafter inner hinner

theorem substitute_append_of_apart {x t : Text} (h : ¬ g.parameter.EndsOpen x ∨ g.parameter.content? t = none) :
    g.substitute values (x ++ t) = g.substitute values x ++ g.substitute values t :=
  Brackets.flatMap_pieces_append (fun _ => rfl) h

/-- Where no token encloses a segment, filling a settled sequence fills the sequence's own tokens. -/
theorem substitute_filled_settle_of_tokensApart {t : Text} {s : Sequence} (h : g.sequence? t = .ok s)
    (hapart : s.TokensApart g) : g.substitute values (s.settle g values).filled = s.filling g values := by
  refine sequence?_induction
    (motive := fun _ s => s.TokensApart g →
      g.substitute values (s.settle g values).filled = s.filling g values)
    ?flat ?span h hapart
  case flat =>
    intro t s _ hflat _
    have hfilled := filled_settle_flat values hflat .nil
    rw [Sequence.append_nil, Brackets.flatMap_raw_pieces] at hfilled
    rw [hfilled, filling_flat hflat]
    exact congrArg (g.substitute values) (List.append_nil t)
  case span =>
    intro t span before body after _ hbefore _ ihafter hapart
    -- a token that begins before the segment would have to end behind it, with no bound in between
    have hfront : ¬ g.parameter.EndsOpen span.before ∨
        g.parameter.content? (g.spliced values (body.settle g values).filled ++ (after.settle g values).filled) =
          none := by
      rw [← ownText_flat hbefore]
      refine (hapart _ _ _ rfl).imp_right fun h => ?_
      exact Brackets.content?_append_of_not_closing (closing_not_mem_of_isReversed (isReversed_spliced _))
        (Sequence.content?_filled_settle h)
    let kept := g.spliced values (body.settle g values).filled
    have hspliced : g.substitute values (kept ++ (after.settle g values).filled) =
        kept ++ g.substitute values (after.settle g values).filled :=
      substitute_append (Sequence.spliced_apart _ _)
    rw [filled_settle_flat values hbefore, Brackets.flatMap_raw_pieces, filled_settle_optional,
      substitute_append_of_apart hfront, hspliced, ihafter hapart.of_append, Sequence.filling_append,
      Sequence.filling, filling_flat hbefore]
    rfl

end Grammar

/-! ## Values are added -/

namespace Sequence

variable {g : Grammar} {v w : Supply}

/-- A complete sequence stays complete. -/
theorem isComplete_of_included (hincluded : ∀ name value, v name = some value → w name = some value)
    {s : Sequence} (h : s.isComplete g v = true) : s.isComplete g w = true := by
  rw [isComplete, Bool.and_eq_true, List.all_eq_true, List.all_eq_true] at h ⊢
  refine ⟨h.1, fun token htoken => ?_⟩
  obtain ⟨value, hvalue, hfree⟩ := Grammar.resolves_eq_true_iff.1 (h.2 token htoken)
  exact Grammar.resolves_eq_true_iff.2 ⟨value, hincluded _ _ hvalue, hfree⟩

/-- Where no token encloses a segment, a sequence that was read is kept exactly if it is complete. -/
theorem isKept_eq_isComplete_of_tokensApart {values : Supply} {t : Text} {body : Sequence}
    (h : g.sequence? t = .ok body) (hapart : body.TokensApart g) :
    body.isKept g values = body.isComplete g values := by
  rw [isKept, Grammar.substitute_filled_settle_of_tokensApart h hapart,
    isReversed_filling (Grammar.reads_of_mem_tokens h)]

end Sequence

/-- A segment none of whose tokens encloses another segment is still kept when values are added. -/
theorem isKept_of_included (g : Grammar) (source : Text) (template : Template) (v w : Supply)
    (hparse : Template.parse? g source = .ok template)
    (hincluded : ∀ name value, v name = some value → w name = some value) :
    ∀ body ∈ template.segments.optionals, body.TokensApart g →
      body.isKept g v = true → body.isKept g w = true := by
  intro body hbody hapart hkept
  obtain ⟨t, hread⟩ := Grammar.exists_sequence?_of_mem_optionals (Template.sequence?_of_parse? hparse).2 hbody
  rw [Sequence.isKept_eq_isComplete_of_tokensApart hread hapart] at hkept ⊢
  exact Sequence.isComplete_of_included hincluded hkept

/-- A segment is kept although a value is added with which another segment inside it is kept too. -/
theorem isKept_of_included_nested :
    ∃ template body, Template.parse? .standard "/t[/{a}[/{b}]]".toList = .ok template ∧
      body ∈ template.segments.optionals ∧ body.TokensApart .standard ∧
      body.isKept .standard (.ofPairs [("a".toList, "1".toList)]) = true ∧
      body.isKept .standard (.ofPairs [("a".toList, "1".toList), ("b".toList, "2".toList)]) = true := by
  let body : Sequence := .literal "/".toList (.parameter ⟨"a".toList, none, "{a}".toList⟩
    (.optional (.literal "/".toList (.parameter ⟨"b".toList, none, "{b}".toList⟩ .nil)) .nil))
  have hparse : Template.parse? .standard "/t[/{a}[/{b}]]".toList =
      .ok ⟨"/t[/{a}[/{b}]]".toList, .standard, .literal "/t".toList (.optional body .nil)⟩ := by
    decide +kernel
  have hkept : body.isKept .standard (.ofPairs [("a".toList, "1".toList)]) = true := by decide +kernel
  have hread : body.IsRead .standard := by
    obtain ⟨t, ht⟩ : ∃ t, Grammar.standard.sequence? t = .ok body := ⟨"/{a}[/{b}]".toList, by decide +kernel⟩
    exact Grammar.reads_of_mem_tokens ht
  have hapart : body.TokensApart .standard := Sequence.OneSided.tokensApart (Or.inl (by decide)) hread
  refine ⟨_, body, hparse, List.mem_cons_self, hapart, hkept, ?_⟩
  refine isKept_of_included .standard _ _ _ _ hparse ?_ body List.mem_cons_self hapart hkept
  intro name value h
  rw [Supply.ofPairs, List.lookup_cons] at h ⊢
  split at h
  · exact h
  · simp at h

/-- Where a token encloses a segment, a value more can take the segment around it away: the text `{a}` is left
without a value of `x`, and `{a2}` with one. -/
theorem exists_isKept_lost :
    ∃ template body, Template.parse? .standard "/t[/k{a[{x}]}]".toList = .ok template ∧
      body ∈ template.segments.optionals ∧
      (∀ name value, Supply.ofPairs [("a".toList, "1".toList)] name = some value →
        Supply.ofPairs [("a".toList, "1".toList), ("x".toList, "2".toList)] name = some value) ∧
      body.isKept .standard (.ofPairs [("a".toList, "1".toList)]) = true ∧
      body.isKept .standard (.ofPairs [("a".toList, "1".toList), ("x".toList, "2".toList)]) = false := by
  let body : Sequence := .literal "/k\x7ba".toList
    (.optional (.parameter ⟨"x".toList, none, "{x}".toList⟩ .nil) (.literal "\x7d".toList .nil))
  refine ⟨⟨"/t[/k{a[{x}]}]".toList, .standard, .literal "/t".toList (.optional body .nil)⟩, body,
    by decide +kernel, List.mem_cons_self, ?_, by decide +kernel, by decide +kernel⟩
  intro name value h
  rw [Supply.ofPairs, List.lookup_cons] at h ⊢
  split at h
  · exact h
  · simp at h

end PathTemplate
