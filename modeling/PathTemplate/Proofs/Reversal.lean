/-
# PathTemplate.Proofs.Reversal — what reversing a template means, segment by segment.

Reversing works on text: a sequence is flattened, cut into tokens again and filled, once for every segment
around it. If the stray parameter bounds of a template are all of one kind, no token can form or vanish on the
way, and the result has a meaning of its own. A segment is complete if its own literal texts hold no bound and
its own tokens have values without bounds; the segments inside it do not matter. `expand` puts together the
literal texts, the values and the complete segments, once and in order.

That reversing keeps exactly the complete segments and comes to that text is `reverse_eq_expand`.
-/
import Mathlib.Control.Monad.Basic
import PathTemplate.Proofs.Rewriting

namespace PathTemplate

namespace Sequence

/-! ## What stands in a sequence -/

/-- The literal texts that stand in the sequence itself, outside its optional segments. -/
def ownLiterals : Sequence → List Text
  | nil => []
  | literal t rest => t :: rest.ownLiterals
  | parameter _ rest => rest.ownLiterals
  | optional _ rest => rest.ownLiterals

/-- All literal texts in document order. -/
def literals : Sequence → List Text
  | nil => []
  | literal t rest => t :: rest.literals
  | parameter _ rest => rest.literals
  | optional body rest => body.literals ++ rest.literals

/-- The bodies of all optional segments in document order. -/
def optionals : Sequence → List Sequence
  | nil => []
  | literal _ rest => rest.optionals
  | parameter _ rest => rest.optionals
  | optional body rest => body :: (body.optionals ++ rest.optionals)

/-- The stray parameter bounds are all of one kind: no literal text holds an opening one, or none a closing
one. -/
def OneSided (g : Grammar) (s : Sequence) : Prop :=
  (∀ t ∈ s.literals, g.parameter.opening ∉ t) ∨ (∀ t ∈ s.literals, g.parameter.closing ∉ t)

/-- Every token is what a token of some text is read as. -/
def IsRead (g : Grammar) (s : Sequence) : Prop := ∀ token ∈ s.tokens, ∃ content, g.Reads token content

end Sequence

namespace Grammar

/-- Is there a value for the name, and is it free of bounds? -/
def resolves (g : Grammar) (values : Supply) (name : Text) : Bool := (values name).any g.isReversed

theorem resolves_eq_true_iff {g : Grammar} {values : Supply} {name : Text} :
    g.resolves values name = true ↔ ∃ value, values name = some value ∧ g.isReversed value = true := by
  rw [resolves]
  cases values name <;> simp

end Grammar

namespace Sequence

/-! ## The meaning of a sequence -/

/-- Are the sequence's own literal texts free of bounds and its own tokens resolved? -/
def isComplete (g : Grammar) (values : Supply) (s : Sequence) : Bool :=
  s.ownLiterals.all g.isReversed && s.ownTokens.all fun token => g.resolves values token.name

/-- The literal texts, the values of the tokens, and the complete segments, in document order. -/
def expand (g : Grammar) (values : Supply) : Sequence → Text
  | nil => []
  | literal t rest => t ++ rest.expand g values
  | parameter token rest => (values token.name).getD [] ++ rest.expand g values
  | optional body rest =>
    (if body.isComplete g values then body.expand g values else []) ++ rest.expand g values

end Sequence

namespace Grammar

variable {g : Grammar} {values : Supply}

/-! ## Filling what is put together -/

theorem parameter_opening_ne_closing (g : Grammar) : g.parameter.opening ≠ g.parameter.closing := by
  have hdistinct := g.distinct
  simp only [Delimiters.characters, Delimiters.assignments, List.map_cons, List.map_nil, List.nodup_cons,
    List.mem_cons, not_or] at hdistinct
  exact hdistinct.2.2.1.1

@[simp] theorem isReversed_nil (g : Grammar) : g.isReversed [] = true := rfl

@[simp] theorem isReversed_append (s t : Text) :
    g.isReversed (s ++ t) = (g.isReversed s && g.isReversed t) := by
  simp [isReversed, containsBound]

/-- What has no bound at all has no closing bound of a token. -/
theorem closing_not_mem_of_isReversed {t : Text} (h : g.isReversed t = true) :
    g.parameter.closing ∉ t := by
  intro hmem
  have hbound : g.isBound g.parameter.closing = true := by
    simp [isBound, isParameterBound, Brackets.isBound]
  have hany : g.containsBound t = true := List.any_eq_true.2 ⟨_, hmem, hbound⟩
  rw [isReversed, hany] at h
  simp at h

/-- What has no bound at all has no opening bound of a token. -/
theorem opening_not_mem_of_isReversed {t : Text} (h : g.isReversed t = true) :
    g.parameter.opening ∉ t := by
  intro hmem
  have hbound : g.isBound g.parameter.opening = true := by
    simp [isBound, isParameterBound, Brackets.isBound]
  have hany : g.containsBound t = true := List.any_eq_true.2 ⟨_, hmem, hbound⟩
  rw [isReversed, hany] at h
  simp at h

theorem isReversed_spliced (interior : Text) : g.isReversed (g.spliced values interior) = true := by
  unfold spliced
  split
  · assumption
  · rfl

/-- The raw text of a token holds bounds. -/
theorem isReversed_raw {token : Token} {content : Text} (h : g.Reads token content) :
    g.isReversed token.raw = false := by
  cases hreversed : g.isReversed token.raw with
  | false => rfl
  | true =>
    have hmem : g.parameter.opening ∈ token.raw := by
      rw [raw_of_token? h.2]
      simp [Piece.raw]
    exact absurd hmem (opening_not_mem_of_isReversed hreversed)

/-- A token begins with an opening bound, and where one opens none can end first. -/
theorem content?_raw_append {token : Token} {content : Text} (h : g.Reads token content) (t : Text) :
    g.parameter.content? (token.raw ++ t) = none := by
  rw [raw_of_token? h.2]
  simp only [Piece.raw, List.cons_append]
  rw [Brackets.content?, if_neg g.parameter_opening_ne_closing, if_pos rfl]

theorem substitute_append {x t : Text}
    (hx : g.parameter.opening ∉ x ∨ (g.parameter.closing ∉ x ∧ g.parameter.content? t = none)) :
    g.substitute values (x ++ t) = x ++ g.substitute values t := by
  rw [substitute, Brackets.pieces_append hx, Piece.flatMap_attachText fun _ => rfl]
  rfl

theorem substitute_token_append {token : Token} {content : Text} (h : g.Reads token content) (t : Text) :
    g.substitute values (token.raw ++ t) =
      (values token.name).getD token.raw ++ g.substitute values t := by
  have hfill : g.fillPiece values (.token content) = (values token.name).getD token.raw := by
    rw [fillPiece, h.2, raw_of_token? h.2]
  rw [substitute, raw_of_token? h.2, Brackets.pieces_token_append h.1, List.flatMap_cons, hfill,
    raw_of_token? h.2]
  rfl

/-- The well-formed tokens of a text. -/
def tokensIn (g : Grammar) (t : Text) : List Token :=
  (g.parameter.pieces t).filterMap fun
    | .text _ => none
    | .token content => (g.token? content).toOption

/-- The unresolved names of a text are those of its tokens that are not supplied. -/
theorem unresolvedNames_eq (values : Supply) (t : Text) :
    g.unresolvedNames values t =
      (((g.tokensIn t).map (·.name)).filter fun name => !values.supplies name).eraseDups := by
  rw [unresolvedNames, tokensIn, List.map_filterMap, List.filter_filterMap]
  congr 2
  funext p
  cases p with
  | text t => rfl
  | token content =>
    cases htoken : g.token? content with
    | error fault => simp [htoken, Except.toOption]
    | ok token =>
      cases hsupplied : values.supplies token.name <;> simp [htoken, hsupplied, Except.toOption, Option.filter]

theorem tokensIn_append {x t : Text}
    (hx : g.parameter.opening ∉ x ∨ (g.parameter.closing ∉ x ∧ g.parameter.content? t = none)) :
    g.tokensIn (x ++ t) = g.tokensIn t := by
  rw [tokensIn, Brackets.pieces_append hx, Piece.filterMap_attachText fun _ => rfl]
  rfl

theorem tokensIn_token_append {token : Token} {content : Text} (h : g.Reads token content) (t : Text) :
    g.tokensIn (token.raw ++ t) = token :: g.tokensIn t := by
  have htoken : (g.token? content).toOption = some token := by
    rw [h.2]
    rfl
  rw [tokensIn, raw_of_token? h.2, Brackets.pieces_token_append h.1, List.filterMap_cons]
  simp only [htoken]
  rfl

end Grammar

namespace Sequence

variable {g : Grammar} {values : Supply}

/-! ## Settled sequences

A sequence with stray bounds of one kind is settled to a text in which its own tokens are the only tokens. -/

theorem OneSided.of_literal {t : Text} {rest : Sequence} (h : (literal t rest).OneSided g) :
    rest.OneSided g := by
  rcases h with h | h
  · exact Or.inl fun u hu => h u (List.mem_cons_of_mem _ hu)
  · exact Or.inr fun u hu => h u (List.mem_cons_of_mem _ hu)

theorem OneSided.of_optional {body rest : Sequence} (h : (optional body rest).OneSided g) :
    body.OneSided g ∧ rest.OneSided g := by
  rcases h with h | h
  · exact ⟨Or.inl fun u hu => h u (List.mem_append_left _ hu),
      Or.inl fun u hu => h u (List.mem_append_right _ hu)⟩
  · exact ⟨Or.inr fun u hu => h u (List.mem_append_left _ hu),
      Or.inr fun u hu => h u (List.mem_append_right _ hu)⟩

theorem IsRead.of_parameter {token : Token} {rest : Sequence} (h : (parameter token rest).IsRead g) :
    (∃ content, g.Reads token content) ∧ rest.IsRead g :=
  ⟨h token List.mem_cons_self, fun other hother => h other (List.mem_cons_of_mem _ hother)⟩

theorem IsRead.of_optional {body rest : Sequence} (h : (optional body rest).IsRead g) :
    body.IsRead g ∧ rest.IsRead g :=
  ⟨fun token htoken => h token (List.mem_append_left _ htoken),
    fun token htoken => h token (List.mem_append_right _ htoken)⟩

theorem filled_settle_literal (t : Text) (rest : Sequence) :
    ((literal t rest).settle g values).filled = t ++ (rest.settle g values).filled := rfl

theorem filled_settle_parameter (token : Token) (rest : Sequence) :
    ((parameter token rest).settle g values).filled = token.raw ++ (rest.settle g values).filled := rfl

/-- The text of a sequence without its optional segments. -/
def ownText : Sequence → Text
  | nil => []
  | literal t rest => t ++ rest.ownText
  | parameter token rest => token.raw ++ rest.ownText
  | optional _ rest => rest.ownText

/-- Where no literal text holds a closing bound, the text of a sequence does not begin with the end of a token. -/
theorem content?_ownText {s : Sequence} (hread : s.IsRead g)
    (hclosing : ∀ t ∈ s.literals, g.parameter.closing ∉ t) : g.parameter.content? s.ownText = none := by
  induction s with
  | nil => rfl
  | literal t rest ih =>
    exact Brackets.content?_append_of_not_closing (hclosing t List.mem_cons_self)
      (ih hread fun u hu => hclosing u (List.mem_cons_of_mem _ hu))
  | parameter token rest _ =>
    obtain ⟨⟨content, htoken⟩, _⟩ := hread.of_parameter
    exact Grammar.content?_raw_append htoken _
  | optional body rest _ ih => exact ih hread.of_optional.2 fun u hu => hclosing u (List.mem_append_right _ hu)

/-- Kept segments hold no bound, so a settled sequence begins with the end of a token only if its own text does. -/
theorem content?_filled_settle {s : Sequence} (h : g.parameter.content? s.ownText = none) :
    g.parameter.content? (s.settle g values).filled = none := by
  have front {x t u : Text} (h : g.parameter.content? (x ++ t) = none)
      (ht : g.parameter.content? t = none → g.parameter.content? u = none) : g.parameter.content? (x ++ u) = none := by
    by_cases hfree : g.parameter.Free x
    · rw [Brackets.content?_append_of_free hfree, Option.map_eq_none_iff] at h ⊢
      exact ht h
    · cases hx : g.parameter.content? x with
      | none => exact Brackets.content?_append_of_not_free hfree hx u
      | some parts =>
        rw [Brackets.content?_append_of_some hx] at h
        simp at h
  induction s with
  | nil => rfl
  | literal t rest ih => exact front h ih
  | parameter token rest ih => exact front h ih
  | optional body rest _ ih =>
    rw [Grammar.filled_settle_optional]
    exact Brackets.content?_append_of_not_closing
      (Grammar.closing_not_mem_of_isReversed (Grammar.isReversed_spliced _)) (ih h)

/-- No token reaches from a literal text into what follows it. -/
theorem OneSided.apart {t : Text} {rest : Sequence} (h : (literal t rest).OneSided g)
    (hread : rest.IsRead g) :
    g.parameter.opening ∉ t ∨
      (g.parameter.closing ∉ t ∧ g.parameter.content? (rest.settle g values).filled = none) := by
  rcases h with h | h
  · exact Or.inl (h t List.mem_cons_self)
  · exact Or.inr ⟨h t List.mem_cons_self,
      content?_filled_settle (content?_ownText hread fun u hu => h u (List.mem_cons_of_mem _ hu))⟩

/-- No token reaches from a kept segment into what follows it. -/
theorem spliced_apart (interior u : Text) :
    g.parameter.opening ∉ g.spliced values interior ∨
      (g.parameter.closing ∉ g.spliced values interior ∧ g.parameter.content? u = none) :=
  Or.inl (Grammar.opening_not_mem_of_isReversed (Grammar.isReversed_spliced _))

/-- The tokens of a settled sequence are its own tokens. -/
theorem tokensIn_filled_settle {s : Sequence} (hread : s.IsRead g) (hside : s.OneSided g) :
    g.tokensIn (s.settle g values).filled = s.ownTokens := by
  induction s with
  | nil => simp [settle, Settled.empty, Grammar.tokensIn, ownTokens]
  | literal t rest ih =>
    rw [filled_settle_literal, Grammar.tokensIn_append (hside.apart hread), ih hread hside.of_literal,
      ownTokens]
  | parameter token rest ih =>
    obtain ⟨⟨content, htoken⟩, hrest⟩ := hread.of_parameter
    rw [filled_settle_parameter, Grammar.tokensIn_token_append htoken, ih hrest hside, ownTokens]
  | optional body rest _ ih =>
    rw [Grammar.filled_settle_optional, Grammar.tokensIn_append (spliced_apart _ _),
      ih hread.of_optional.2 hside.of_optional.2, ownTokens]

/-- The settled sequence, filled: its own literal texts and the values or raw texts of its own tokens, and
what became of its segments. -/
def filling (g : Grammar) (values : Supply) : Sequence → Text
  | nil => []
  | literal t rest => t ++ rest.filling g values
  | parameter token rest => (values token.name).getD token.raw ++ rest.filling g values
  | optional body rest => g.spliced values (body.settle g values).filled ++ rest.filling g values

theorem substitute_filled_settle {s : Sequence} (hread : s.IsRead g) (hside : s.OneSided g) :
    g.substitute values (s.settle g values).filled = s.filling g values := by
  induction s with
  | nil => simp [settle, Settled.empty, Grammar.substitute, filling]
  | literal t rest ih =>
    rw [filled_settle_literal, Grammar.substitute_append (hside.apart hread), ih hread hside.of_literal,
      filling]
  | parameter token rest ih =>
    obtain ⟨⟨content, htoken⟩, hrest⟩ := hread.of_parameter
    rw [filled_settle_parameter, Grammar.substitute_token_append htoken, ih hrest hside, filling]
  | optional body rest _ ih =>
    rw [Grammar.filled_settle_optional, Grammar.substitute_append (spliced_apart _ _),
      ih hread.of_optional.2 hside.of_optional.2, filling]

/-! ## Completeness decides -/

theorem isComplete_literal (t : Text) (rest : Sequence) :
    (literal t rest).isComplete g values = (g.isReversed t && rest.isComplete g values) := by
  simp [isComplete, ownLiterals, ownTokens, Bool.and_assoc]

theorem isComplete_parameter (token : Token) (rest : Sequence) :
    (parameter token rest).isComplete g values =
      (g.resolves values token.name && rest.isComplete g values) := by
  simp only [isComplete, ownLiterals, ownTokens, List.all_cons]
  rw [Bool.and_left_comm]

theorem isComplete_optional (body rest : Sequence) :
    (optional body rest).isComplete g values = rest.isComplete g values := rfl

/-- A token is filled without bounds exactly if it is resolved. -/
theorem isReversed_getD_raw {token : Token} {content : Text} (h : g.Reads token content) :
    g.isReversed ((values token.name).getD token.raw) = g.resolves values token.name := by
  rw [Grammar.resolves]
  cases values token.name with
  | none => exact Grammar.isReversed_raw h
  | some value => rfl

/-- A bound is left in the filled sequence exactly if the sequence is not complete. -/
theorem isReversed_filling {s : Sequence} (hread : s.IsRead g) :
    g.isReversed (s.filling g values) = s.isComplete g values := by
  induction s with
  | nil => rfl
  | literal t rest ih =>
    rw [filling, Grammar.isReversed_append, ih hread, isComplete_literal]
  | parameter token rest ih =>
    obtain ⟨⟨content, htoken⟩, hrest⟩ := hread.of_parameter
    rw [filling, Grammar.isReversed_append, isReversed_getD_raw htoken, ih hrest, isComplete_parameter]
  | optional body rest _ ih =>
    rw [filling, Grammar.isReversed_append, Grammar.isReversed_spliced, Bool.true_and,
      ih hread.of_optional.2, isComplete_optional]

/-- A complete sequence is filled to its meaning. -/
theorem filling_eq_expand {s : Sequence} (hread : s.IsRead g) (hside : s.OneSided g)
    (hcomplete : s.isComplete g values = true) : s.filling g values = s.expand g values := by
  -- only the body of a kept segment is complete, so the two cases of a segment are kept apart
  induction s with
  | nil => rfl
  | literal t rest ih =>
    rw [isComplete_literal, Bool.and_eq_true] at hcomplete
    rw [filling, expand, ih hread hside.of_literal hcomplete.2]
  | parameter token rest ih =>
    rw [isComplete_parameter, Bool.and_eq_true] at hcomplete
    obtain ⟨value, hvalue, _⟩ := Grammar.resolves_eq_true_iff.1 hcomplete.1
    rw [filling, expand, ih hread.of_parameter.2 hside hcomplete.2, hvalue]
    rfl
  | optional body rest ihbody ih =>
    obtain ⟨hreadBody, hreadRest⟩ := hread.of_optional
    obtain ⟨hsideBody, hsideRest⟩ := hside.of_optional
    have hspliced : g.spliced values (body.settle g values).filled =
        if body.isComplete g values then body.expand g values else [] := by
      rw [Grammar.spliced, substitute_filled_settle hreadBody hsideBody, isReversed_filling hreadBody]
      split
      · rename_i hbody
        exact ihbody hreadBody hsideBody hbody
      · rfl
    rw [filling, expand, hspliced, ih hreadRest hsideRest hcomplete]

/-- What holds of all literal texts and tokens of a sequence holds of those of each of its segments. -/
theorem isRead_and_oneSided_of_mem_optionals {s body : Sequence} (hmem : body ∈ s.optionals)
    (hread : s.IsRead g) (hside : s.OneSided g) : body.IsRead g ∧ body.OneSided g := by
  induction s with
  | nil => simp [optionals] at hmem
  | literal t rest ih => exact ih hmem hread hside.of_literal
  | parameter token rest ih => exact ih hmem hread.of_parameter.2 hside
  | optional first rest ihfirst ih =>
    rw [optionals, List.mem_cons, List.mem_append] at hmem
    rcases hmem with rfl | hmem | hmem
    · exact ⟨hread.of_optional.1, hside.of_optional.1⟩
    · exact ihfirst hmem hread.of_optional.1 hside.of_optional.1
    · exact ih hmem hread.of_optional.2 hside.of_optional.2

/-! ## Kept segments -/

/-- Is an optional segment with this body kept? -/
def isKept (g : Grammar) (values : Supply) (body : Sequence) : Bool :=
  g.isReversed (g.substitute values (body.settle g values).filled)

/-- A segment is spliced into the sequence around it exactly if it is kept. -/
theorem settle_optional (body rest : Sequence) :
    (optional body rest).settle g values =
      if body.isKept g values then
        ⟨g.substitute values (body.settle g values).filled ++ (rest.settle g values).filled,
          (body.settle g values).pruned ++ (rest.settle g values).pruned⟩
      else rest.settle g values := rfl

/-- A segment is kept exactly if it is complete. -/
theorem isKept_eq_isComplete {body : Sequence} (hread : body.IsRead g) (hside : body.OneSided g) :
    body.isKept g values = body.isComplete g values := by
  rw [isKept, substitute_filled_settle hread hside, isReversed_filling hread]

end Sequence

/-! ## Names, each once -/

/-- Dropping repetitions and keeping some of the names can be done in either order. -/
theorem eraseDups_filter {α : Type} [BEq α] [LawfulBEq α] (p : α → Bool) (as : List α) :
    (as.filter p).eraseDups = as.eraseDups.filter p := by
  induction hn : as.length using Nat.strongRecOn generalizing as with
  | ind n ih =>
    cases as with
    | nil => rfl
    | cons a rest =>
      have hshorter : (rest.filter fun b => !b == a).length < n := by
        have := List.length_filter_le (fun b => !b == a) rest
        rw [← hn, List.length_cons]
        omega
      have hrest := ih _ hshorter (rest.filter fun b => !b == a) rfl
      rw [List.eraseDups_cons]
      cases hp : p a with
      | true =>
        rw [List.filter_cons_of_pos hp, List.filter_cons_of_pos hp, List.eraseDups_cons, ← hrest,
          List.filter_filter, List.filter_filter]
        simp only [Bool.and_comm]
      | false =>
        rw [List.filter_cons_of_neg (by simp [hp]), List.filter_cons_of_neg (by simp [hp]), ← hrest,
          List.filter_filter]
        congr 1
        apply List.filter_congr
        intro b _
        cases hb : b == a with
        | false => simp
        | true =>
          obtain rfl := eq_of_beq hb
          simp [hp]

namespace Template

variable {g : Grammar} {values : Supply}

/-- A template is complete at its root exactly if its required names are resolved and no literal text of the
root holds a bound. -/
theorem isComplete_segments_iff (t : Template) :
    t.segments.isComplete g values = true ↔
      (∀ literal ∈ t.segments.ownLiterals, g.containsBound literal = false) ∧
      ∀ name ∈ t.requiredNames, g.resolves values name = true := by
  simp [Sequence.isComplete, Grammar.isReversed, requiredNames]

end Template

/-- Reversing a template that has been read comes down to whether it is complete. -/
theorem Grammar.reverse_eq_ite {g : Grammar} {source : Text} {template : Template} (values : Supply)
    (hparse : Template.parse? g source = .ok template) (hside : template.segments.OneSided g) :
    g.reverse source values =
      if template.segments.isComplete g values then .ok (template.segments.expand g values)
      else .error (.irreversible source (template.requiredNames.filter fun name => !values.supplies name)) := by
  obtain ⟨segments, hsegments, rfl⟩ := Template.parse?_eq_ok_iff.1 hparse
  have hread : segments.IsRead g := Grammar.reads_of_mem_tokens hsegments
  rw [Grammar.reverse_of_parse? hparse, Grammar.reverseTemplate]
  dsimp only
  rw [Sequence.substitute_filled_settle hread hside, Sequence.isReversed_filling hread]
  split
  · rename_i hcomplete
    rw [Sequence.filling_eq_expand hread hside hcomplete]
  · -- the tokens that are left are those of the root, so their names are the required ones
    rw [Grammar.unresolvedNames_eq, Sequence.tokensIn_filled_settle hread hside, eraseDups_filter]
    rfl

/-- Reversing keeps exactly the complete segments. It comes to the literal texts, values and kept segments in
order if the root is complete, and otherwise names the required parameters that are not supplied. -/
theorem reverse_eq_expand (g : Grammar) (source : Text) (values : Supply) (template : Template)
    (hparse : Template.parse? g source = .ok template) (hside : template.segments.OneSided g) :
    (∀ body ∈ template.segments.optionals,
      (g.isReversed (g.substitute values (body.settle g values).filled) = true ↔
        (∀ literal ∈ body.ownLiterals, g.containsBound literal = false) ∧
        ∀ token ∈ body.ownTokens, g.resolves values token.name = true) ∧
      (g.isReversed (g.substitute values (body.settle g values).filled) = true →
        g.substitute values (body.settle g values).filled = body.expand g values)) ∧
    ((∀ literal ∈ template.segments.ownLiterals, g.containsBound literal = false) ∧
        (∀ name ∈ template.requiredNames, g.resolves values name = true) →
      g.reverse source values = .ok (template.segments.expand g values)) ∧
    (¬ ((∀ literal ∈ template.segments.ownLiterals, g.containsBound literal = false) ∧
        ∀ name ∈ template.requiredNames, g.resolves values name = true) →
      g.reverse source values =
        .error (.irreversible source (template.requiredNames.filter fun name => !values.supplies name))) := by
  obtain ⟨segments, hsegments, rfl⟩ := Template.parse?_eq_ok_iff.1 hparse
  have hread : segments.IsRead g := Grammar.reads_of_mem_tokens hsegments
  refine ⟨?segment, ?complete, ?incomplete⟩
  case segment =>
    intro body hbody
    obtain ⟨hreadBody, hsideBody⟩ := Sequence.isRead_and_oneSided_of_mem_optionals hbody hread hside
    rw [Sequence.substitute_filled_settle hreadBody hsideBody, Sequence.isReversed_filling hreadBody]
    refine ⟨by simp [Sequence.isComplete, Grammar.isReversed], ?_⟩
    exact Sequence.filling_eq_expand hreadBody hsideBody
  case complete =>
    intro h
    have hcomplete := (Template.isComplete_segments_iff ⟨source, g, segments⟩).2 h
    rw [Grammar.reverse_eq_ite values hparse hside, if_pos hcomplete]
  case incomplete =>
    intro h
    have hcomplete := mt (Template.isComplete_segments_iff ⟨source, g, segments⟩).1 h
    rw [Grammar.reverse_eq_ite values hparse hside, if_neg hcomplete]

/-- A kept segment, a dropped one inside it, and one that a stray bound makes incomplete. -/
theorem reverse_stray_bound :
    ∃ template, Template.parse? .standard "/a[/{b}[/{c}]][\x7dx]".toList = .ok template ∧
      template.segments.OneSided .standard ∧
      Grammar.standard.reverse "/a[/{b}[/{c}]][\x7dx]".toList
        (.ofPairs [("b".toList, "1".toList), ("c".toList, "\x7b".toList)]) = .ok "/a/1".toList := by
  have hparse : Template.parse? .standard "/a[/{b}[/{c}]][\x7dx]".toList =
      .ok ⟨"/a[/{b}[/{c}]][\x7dx]".toList, .standard,
        .literal "/a".toList (.optional
          (.literal "/".toList (.parameter ⟨"b".toList, none, "{b}".toList⟩ (.optional
            (.literal "/".toList (.parameter ⟨"c".toList, none, "{c}".toList⟩ .nil)) .nil)))
          (.optional (.literal "\x7dx".toList .nil) .nil))⟩ := by
    decide +kernel
  refine ⟨_, hparse, Or.inl (by decide), ?_⟩
  rw [(reverse_eq_expand .standard _ _ _ hparse (Or.inl (by decide))).2.1 (by decide)]
  decide

end PathTemplate
