/-
# PathTemplate.Proofs.Reuse — going back to a path from a template that another grammar read.

A template that has been read keeps its grammar, but going back to a path asks only the grammar that is told to: it
finds the tokens again in the text of the template, and takes a character for a bound or not. So the path is the one
that the template's own grammar gives exactly where the two grammars have the same bounds of tokens, the same
separator, and the same characters as bounds of optional segments, in whatever order.

Where they differ, three kinds of templates show it: a token alone, a token with a type, and a single character.
-/
import Mathlib.Data.List.Perm.Subperm
import PathTemplate.Proofs.Occurrence
import PathTemplate.Proofs.Reversal

namespace PathTemplate

namespace Grammar

variable {g h : Grammar} {values : Supply}

/-! ## Grammars that fill alike -/

/-- The grammars find the same tokens and take the same characters for bounds. -/
structure FillsAlike (g h : Grammar) : Prop where
  parameter : h.parameter = g.parameter
  separator : h.separator = g.separator
  option : ∀ c, h.isOptionBound c = g.isOptionBound c

namespace FillsAlike

theorem token? (hgh : g.FillsAlike h) (content : Text) : h.token? content = g.token? content := by
  rw [Grammar.token?, Grammar.token?, hgh.parameter, hgh.separator]

theorem fillPiece (hgh : g.FillsAlike h) (p : Piece) : h.fillPiece values p = g.fillPiece values p := by
  cases p with
  | text t => rfl
  | token content => rw [Grammar.fillPiece, Grammar.fillPiece, hgh.token?, hgh.parameter]

theorem substitute (hgh : g.FillsAlike h) (t : Text) : h.substitute values t = g.substitute values t := by
  rw [Grammar.substitute, Grammar.substitute, hgh.parameter, funext hgh.fillPiece]

theorem isBound (hgh : g.FillsAlike h) (c : Char) : h.isBound c = g.isBound c := by
  rw [Grammar.isBound, Grammar.isBound, hgh.option, isParameterBound, isParameterBound, hgh.parameter]

theorem isReversed (hgh : g.FillsAlike h) (t : Text) : h.isReversed t = g.isReversed t := by
  rw [Grammar.isReversed, Grammar.isReversed, containsBound, containsBound, funext hgh.isBound]

theorem unresolvedNames (hgh : g.FillsAlike h) (t : Text) :
    h.unresolvedNames values t = g.unresolvedNames values t := by
  unfold Grammar.unresolvedNames
  simp only [hgh.parameter, hgh.token?]

theorem settle (hgh : g.FillsAlike h) (s : Sequence) : s.settle h values = s.settle g values := by
  induction s with
  | nil => rfl
  | literal t rest ih => rw [Sequence.settle, Sequence.settle, ih]
  | parameter token rest ih => rw [Sequence.settle, Sequence.settle, ih]
  | optional body rest ihBody ihRest =>
    rw [Sequence.settle, Sequence.settle, ihBody, ihRest, hgh.substitute, hgh.isReversed]

theorem reverseTemplate (hgh : g.FillsAlike h) (template : Template) :
    h.reverseTemplate template values = g.reverseTemplate template values := by
  rw [Grammar.reverseTemplate, Grammar.reverseTemplate]
  simp only [hgh.settle, hgh.substitute, hgh.isReversed, hgh.unresolvedNames]

end FillsAlike

/-! ## A token alone -/

theorem parse?_raw {token : Token} {content : Text} (hread : g.Reads token content)
    (hoption : g.option.Free token.raw) :
    Template.parse? g token.raw = .ok ⟨token.raw, g, .parameter token .nil⟩ := by
  have hspan : g.option.firstSpan? token.raw = none := by
    rw [← List.append_nil token.raw, Brackets.firstSpan?_append_of_free hoption]
    rfl
  have hpieces : g.parameter.pieces token.raw = [.token content] := by
    rw [← List.append_nil token.raw, raw_of_token? hread.2, Brackets.pieces_token_append hread.1, Brackets.pieces_nil]
  rw [Template.parse?, sequence?_of_none hspan, hpieces, flatSequence?, hread.2]
  rfl

theorem reverse_raw {token : Token} {content value : Text} (hread : g.Reads token content)
    (hoption : g.option.Free token.raw) (hvalue : values token.name = some value)
    (hreversed : g.isReversed value = true) : g.reverse token.raw values = .ok value := by
  have hfill : g.substitute values (token.raw ++ []) = value := by
    rw [substitute_token_append hread, hvalue]
    simp [substitute]
  rw [reverse_of_parse? (parse?_raw hread hoption), reverseTemplate]
  simp only [Sequence.settle, Settled.attach, Settled.empty, hfill, hreversed, if_true]

/-- If a template that is one token has a path, the path is what the token is filled with. -/
theorem substitute_of_reverseTemplate {source value : Text} {token : Token}
    (hreverse : h.reverseTemplate ⟨source, g, .parameter token .nil⟩ values = .ok value) :
    h.substitute values token.raw = value := by
  simp only [reverseTemplate, Sequence.settle, Settled.attach, Settled.empty, List.append_nil] at hreverse
  split at hreverse
  · exact Except.ok.inj hreverse
  · simp at hreverse

/-! ## Text that is kept -/

/-- A single character is ordinary text, bound or not. -/
theorem pieces_singleton (b : Brackets) (c : Char) : b.pieces [c] = [.text [c]] := by
  by_cases hc : c = b.opening
  · rw [hc, Brackets.pieces_opening_of_none rfl, Brackets.pieces_nil]
    rfl
  · rw [Brackets.pieces_cons_of_ne hc, Brackets.pieces_nil]
    rfl

theorem substitute_singleton (c : Char) : g.substitute values [c] = [c] := by
  rw [substitute, pieces_singleton]
  rfl

/-- Between two characters that are not the bounds of a token there is no token. -/
theorem substitute_between {a c : Char} {t : Text} (ht : g.parameter.Free t)
    (hbounds : ¬ (a = g.parameter.opening ∧ c = g.parameter.closing)) :
    g.substitute values (a :: t ++ [c]) = a :: t ++ [c] := by
  have hopening : g.parameter.opening ∉ t := fun hmem => (Brackets.isBound_eq_false_iff.1 (ht _ hmem)).1 rfl
  have hclosing : g.parameter.closing ∉ t := fun hmem => (Brackets.isBound_eq_false_iff.1 (ht _ hmem)).2 rfl
  have hx : g.parameter.opening ∉ a :: t ∨ (g.parameter.closing ∉ a :: t ∧ g.parameter.content? [c] = none) := by
    by_cases ha : a = g.parameter.opening
    · have hc : c ≠ g.parameter.closing := fun hc => hbounds ⟨ha, hc⟩
      refine Or.inr ⟨?_, ?_⟩
      · simpa [ha, hclosing] using g.parameter_opening_ne_closing.symm
      · simp [Brackets.content?, hc]
    · exact Or.inl (by simpa [hopening, eq_comm] using ha)
  rw [substitute_append hx, substitute_singleton]

theorem parse?_singleton (g : Grammar) (c : Char) : Template.parse? g [c] = .ok ⟨[c], g, .literal [c] .nil⟩ := by
  have hspan : g.option.firstSpan? [c] = none := by
    simp [Brackets.firstSpan?, Brackets.interior?]
  rw [Template.parse?, sequence?_of_none hspan, pieces_singleton]
  rfl

theorem reverseTemplate_singleton (c : Char) :
    h.reverseTemplate ⟨[c], g, .literal [c] .nil⟩ values =
      if h.isBound c then .error (.irreversible [c] []) else .ok [c] := by
  have hnames : h.unresolvedNames values [c] = [] := by
    rw [unresolvedNames, pieces_singleton]
    rfl
  have hreversed : h.isReversed [c] = !h.isBound c := by simp [isReversed, containsBound]
  simp only [reverseTemplate, Sequence.settle, Settled.attach, Settled.empty, List.append_nil, substitute_singleton,
    hreversed, hnames]
  cases h.isBound c <;> rfl

/-! ## Characters with and without a role -/

/-- The character has no role in the grammar. -/
theorem plain_of_not_mem_characters {c : Char} (hc : c ∉ g.characters) :
    g.option.isBound c = false ∧ g.parameter.isBound c = false ∧ c ≠ g.separator := by
  simp only [Delimiters.characters, Delimiters.assignments, List.map_cons, List.map_nil, List.mem_cons,
    List.not_mem_nil, or_false, not_or] at hc
  obtain ⟨h₁, h₂, h₃, h₄, h₅⟩ := hc
  exact ⟨Brackets.isBound_eq_false_iff.2 ⟨h₁, h₂⟩, Brackets.isBound_eq_false_iff.2 ⟨h₃, h₄⟩, h₅⟩

theorem isReversed_of_not_mem_characters {c : Char} (hc : c ∉ g.characters) : g.isReversed [c] = true := by
  obtain ⟨hoption, hparameter, -⟩ := plain_of_not_mem_characters hc
  simp [isReversed, containsBound, isBound, isOptionBound, isParameterBound, hoption, hparameter]

/-- There are more characters than two grammars can use. -/
theorem exists_not_mem_characters (g h : Grammar) : ∃ c, c ∉ g.characters ∧ c ∉ h.characters := by
  by_contra hnone
  have hsub : "abcdefghijk".toList ⊆ g.characters ++ h.characters := fun c _ =>
    List.mem_append.2 (or_iff_not_imp_left.2 fun hg => not_not.1 fun hh => hnone ⟨c, hg, hh⟩)
  have hle := (List.subperm_of_subset (by decide) hsub).length_le
  simp [Delimiters.characters, Delimiters.assignments] at hle

theorem isBound_parameter (g : Grammar) :
    g.option.isBound g.parameter.opening = false ∧ g.option.isBound g.parameter.closing = false := by
  have hdistinct := g.distinct
  simp only [Delimiters.characters, Delimiters.assignments, List.map_cons, List.map_nil, List.nodup_cons,
    List.mem_cons, not_or] at hdistinct
  obtain ⟨⟨-, ho, ho', -⟩, ⟨hc, hc', -⟩, -⟩ := hdistinct
  exact ⟨Brackets.isBound_eq_false_iff.2 ⟨Ne.symm ho, Ne.symm hc⟩,
    Brackets.isBound_eq_false_iff.2 ⟨Ne.symm ho', Ne.symm hc'⟩⟩

theorem isBound_separator (g : Grammar) :
    g.option.isBound g.separator = false ∧ g.parameter.isBound g.separator = false := by
  have hdistinct := g.distinct
  simp only [Delimiters.characters, Delimiters.assignments, List.map_cons, List.map_nil, List.nodup_cons,
    List.mem_cons, List.not_mem_nil, or_false, not_or] at hdistinct
  obtain ⟨⟨-, -, -, h₁⟩, ⟨-, -, h₂⟩, ⟨-, h₃⟩, h₄, -⟩ := hdistinct
  exact ⟨Brackets.isBound_eq_false_iff.2 ⟨Ne.symm h₁, Ne.symm h₂⟩,
    Brackets.isBound_eq_false_iff.2 ⟨Ne.symm h₃, Ne.symm h₄⟩⟩

/-- No bound of a token bounds optional segments. -/
theorem isOptionBound_eq (g : Grammar) (c : Char) :
    g.isOptionBound c = (g.isBound c && !g.isParameterBound c) := by
  cases hc : g.isParameterBound c with
  | false => simp [isBound, hc]
  | true =>
    rcases by simpa [isParameterBound, Brackets.isBound] using hc with rfl | rfl
    · simpa [isOptionBound] using (isBound_parameter g).1
    · simpa [isOptionBound] using (isBound_parameter g).2

/-! ## What the paths tell about the grammars -/

section

variable (heq : ∀ source template values, Template.parse? g source = .ok template →
  h.reverseTemplate template values = g.reverse source values)

include heq

/-- A token whose name is put in its own place. -/
theorem substitute_raw {token : Token} {content : Text} (hread : g.Reads token content)
    (hoption : g.option.Free content) (hname : g.isReversed token.name = true) :
    h.substitute some token.raw = token.name := by
  have hraw : g.option.Free token.raw := by
    rw [raw_of_token? hread.2, Piece.raw]
    simp [Brackets.free_append, Brackets.free_cons, hoption, isBound_parameter]
  have hreverse := heq _ _ some (parse?_raw hread hraw)
  rw [reverse_raw hread hraw rfl hname] at hreverse
  exact substitute_of_reverseTemplate hreverse

/-- A token that is one character without a role tells the bounds of tokens apart. -/
theorem parameter_eq {c : Char} (hg : c ∉ g.characters) (hh : c ∉ h.characters) : h.parameter = g.parameter := by
  obtain ⟨hoption, hparameter, hseparator⟩ := plain_of_not_mem_characters hg
  have hread : g.Reads ⟨[c], none, (Piece.token [c]).raw g.parameter⟩ [c] :=
    ⟨by simp [Brackets.free_cons, hparameter],
      token?_eq_ok_iff.2 ⟨rfl, by simp, by simpa using hseparator.symm, Or.inl ⟨rfl, rfl⟩⟩⟩
  have hfill := substitute_raw heq hread (by simp [Brackets.free_cons, hoption]) (isReversed_of_not_mem_characters hg)
  by_contra hne
  have hbounds : ¬ (g.parameter.opening = h.parameter.opening ∧ g.parameter.closing = h.parameter.closing) := by
    rintro ⟨ho, hc⟩
    exact hne (by cases hp : h.parameter; cases hq : g.parameter; simp_all)
  have hfree : h.parameter.Free [c] := by
    simp [Brackets.free_cons, (plain_of_not_mem_characters hh).2.1]
  have hkept : h.substitute some ((Piece.token [c]).raw g.parameter) = (Piece.token [c]).raw g.parameter :=
    substitute_between hfree hbounds
  exact absurd (congrArg List.length (hkept.symm.trans hfill)) (by simp [Piece.raw])

/-- A token with a type tells the separators apart. -/
theorem separator_eq {c : Char} (hg : c ∉ g.characters) (hh : c ∉ h.characters) : h.separator = g.separator := by
  have hbounds := parameter_eq heq hg hh
  obtain ⟨hoption, hparameter, hseparator⟩ := plain_of_not_mem_characters hg
  obtain ⟨hoptionSep, hparameterSep⟩ := isBound_separator g
  have hfree : g.parameter.Free [c, g.separator, c] := by
    simp [Brackets.free_cons, hparameter, hparameterSep]
  have hread : g.Reads ⟨[c], some [c], (Piece.token [c, g.separator, c]).raw g.parameter⟩ [c, g.separator, c] := by
    refine ⟨hfree, token?_eq_ok_iff.2 ⟨rfl, by simp, by simpa using hseparator.symm, Or.inr ⟨[c], ?_⟩⟩⟩
    simpa using hseparator.symm
  have hfill := substitute_raw heq hread (by simp [Brackets.free_cons, hoption, hoptionSep])
    (isReversed_of_not_mem_characters hg)
  by_contra hne
  -- the other grammar reads a token whose name is the whole content
  have hother : h.Reads ⟨[c, g.separator, c], none, (Piece.token [c, g.separator, c]).raw g.parameter⟩
      [c, g.separator, c] := by
    refine ⟨hbounds ▸ hfree, token?_eq_ok_iff.2 ⟨by rw [hbounds], by simp, ?_, Or.inl ⟨rfl, rfl⟩⟩⟩
    simp [hne, (plain_of_not_mem_characters hh).2.2.symm]
  have hkept : h.substitute some ((Piece.token [c, g.separator, c]).raw g.parameter ++ []) =
      [c, g.separator, c] ++ h.substitute some [] := substitute_token_append hother []
  rw [List.append_nil, hfill] at hkept
  exact absurd (congrArg List.length hkept) (by simp [substitute])

/-- A single character tells whether it is a bound. -/
theorem isBound_eq (c : Char) : h.isBound c = g.isBound c := by
  have hreverse := heq _ _ (fun _ => none) (parse?_singleton g c)
  rw [reverse_of_parse? (parse?_singleton g c), reverseTemplate_singleton, reverseTemplate_singleton] at hreverse
  cases hg : g.isBound c <;> cases hh : h.isBound c <;> simp [hg, hh] at hreverse ⊢

/-- Grammars that give the same paths fill alike. -/
theorem fillsAlike_of_eq : g.FillsAlike h := by
  obtain ⟨c, hg, hh⟩ := exists_not_mem_characters g h
  have hparameter := parameter_eq heq hg hh
  refine ⟨hparameter, separator_eq heq hg hh, fun d => ?_⟩
  rw [isOptionBound_eq, isOptionBound_eq, isBound_eq heq, isParameterBound, isParameterBound, hparameter]

end

/-! ## Going back from what has been read -/

/-- Going back from a template that has been read is the same as reading its source again and going back, for all
templates of a grammar, exactly for the grammars that have the same bounds of tokens, the same separator, and the same
characters as bounds of optional segments. -/
theorem reverseTemplate_eq_reverse_iff (g h : Grammar) :
    (∀ source template values, Template.parse? g source = .ok template →
        h.reverseTemplate template values = g.reverse template.source values) ↔
      h.parameter = g.parameter ∧ h.separator = g.separator ∧ ∀ c, h.isOptionBound c = g.isOptionBound c := by
  constructor
  · intro heq
    have hfills : g.FillsAlike h := fillsAlike_of_eq fun source template values hparse => by
      rw [heq source template values hparse, (Template.sequence?_of_parse? hparse).1]
    exact ⟨hfills.parameter, hfills.separator, hfills.option⟩
  · rintro ⟨hparameter, hseparator, hoption⟩ source template values hparse
    have hfills : g.FillsAlike h := ⟨hparameter, hseparator, hoption⟩
    rw [hfills.reverseTemplate, ← (Template.sequence?_of_parse? hparse).1, reverse_of_parse? hparse]

/-- A template with angle brackets goes back to itself under the standard grammar, with its parameter left in it. -/
theorem reverseTemplate_standard_of_angle :
    let g : Grammar := ⟨⟨⟨'[', ']'⟩, ⟨'<', '>'⟩, ':'⟩, by decide⟩
    ∃ template, Template.parse? g "/a/<x>".toList = .ok template ∧ template.parameterNames = ["x".toList] ∧
      Grammar.standard.reverseTemplate template (.ofPairs [("x".toList, "1".toList)]) = .ok "/a/<x>".toList ∧
      g.reverse template.source (.ofPairs [("x".toList, "1".toList)]) = .ok "/a/1".toList := by
  refine ⟨⟨"/a/<x>".toList, ⟨⟨⟨'[', ']'⟩, ⟨'<', '>'⟩, ':'⟩, by decide⟩,
    .literal "/a/".toList (.parameter ⟨"x".toList, none, "<x>".toList⟩ .nil)⟩, ?_⟩
  decide +kernel

end Grammar

end PathTemplate
