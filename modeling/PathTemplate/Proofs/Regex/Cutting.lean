/-
# PathTemplate.Proofs.Regex.Cutting — cutting a pattern that is put together from parts.

`Cuts mode t lexemes mode' rest` says that in a mode the lexemes are read off the front of `t`, and that `rest` is left
to be read in the mode that they lead to. It is judged with what really follows at hand, so cuts can be put one after
another. Two kinds of text are cut here: escaped text, and the brackets and signs that a compiler writes.
-/
import PathTemplate.Pattern
import PathTemplate.Proofs.Regex.Persistence

namespace PathTemplate.Regex

/-! ## Lexemes one at a time -/

theorem lexemes?_of_nil {mode : Mode} {t : Text} (h : Lexer.visible mode.verbose t = []) :
    lexemes? mode t = some [] := by
  rw [lexemes?]
  split
  · rfl
  · rename_i hvisible
    rw [h] at hvisible
    simp at hvisible

theorem lexemes?_of_cons {mode : Mode} {c : Char} {t t' : Text} (h : Lexer.visible mode.verbose t = c :: t') :
    lexemes? mode t = ((Lexer.lexeme mode.verbose c).result t').bind fun (lexeme, rest) =>
      (lexemes? (mode.after lexeme) rest).map (lexeme :: ·) := by
  rw [lexemes?]
  split
  · rename_i hvisible
    rw [h] at hvisible
    simp at hvisible
  · rename_i hvisible
    rw [h] at hvisible
    obtain ⟨rfl, rfl⟩ := List.cons.inj hvisible
    dsimp only
    rw [Reader.result]
    cases Lexer.lexeme mode.verbose c t' <;> rfl

@[simp] theorem lexemes?_nil (mode : Mode) : lexemes? mode [] = some [] := by
  apply lexemes?_of_nil
  cases mode.verbose <;> rfl

/-- What is left out in front of a text makes no difference. -/
theorem lexemes?_congr {mode : Mode} {t u : Text}
    (h : Lexer.visible mode.verbose t = Lexer.visible mode.verbose u) : lexemes? mode t = lexemes? mode u := by
  cases hvisible : Lexer.visible mode.verbose u with
  | nil => rw [lexemes?_of_nil hvisible, lexemes?_of_nil (h.trans hvisible)]
  | cons c u' => rw [lexemes?_of_cons hvisible, lexemes?_of_cons (h.trans hvisible)]

theorem lexemes?_of_result {mode : Mode} {c : Char} {t t' rest : Text} {lexeme : Lexeme}
    (hvisible : Lexer.visible mode.verbose t = c :: t')
    (hread : (Lexer.lexeme mode.verbose c).result t' = some (lexeme, rest)) :
    lexemes? mode t = (lexemes? (mode.after lexeme) rest).map (lexeme :: ·) := by
  rw [lexemes?_of_cons hvisible, hread]
  rfl

theorem lexemes?_eq_nil_iff {mode : Mode} {t : Text} :
    lexemes? mode t = some [] ↔ Lexer.visible mode.verbose t = [] := by
  refine ⟨fun h => ?_, lexemes?_of_nil⟩
  cases hvisible : Lexer.visible mode.verbose t with
  | nil => rfl
  | cons c t' =>
    rw [lexemes?_of_cons hvisible, Option.bind_eq_some_iff] at h
    obtain ⟨_, -, h⟩ := h
    simp at h

theorem lexemes?_eq_cons_iff {mode : Mode} {t : Text} {lexeme : Lexeme} {ls : List Lexeme} :
    lexemes? mode t = some (lexeme :: ls) ↔ ∃ c t' rest, Lexer.visible mode.verbose t = c :: t' ∧
      (Lexer.lexeme mode.verbose c).result t' = some (lexeme, rest) ∧ lexemes? (mode.after lexeme) rest = some ls := by
  constructor
  · intro h
    cases hvisible : Lexer.visible mode.verbose t with
    | nil =>
      rw [lexemes?_of_nil hvisible] at h
      simp at h
    | cons c t' =>
      rw [lexemes?_of_cons hvisible, Option.bind_eq_some_iff] at h
      obtain ⟨⟨lexeme', rest⟩, hread, h⟩ := h
      obtain ⟨ls', hrest, heq⟩ := Option.map_eq_some_iff.1 h
      obtain ⟨rfl, rfl⟩ := List.cons.inj heq
      exact ⟨c, t', rest, rfl, hread, hrest⟩
  · rintro ⟨c, t', rest, hvisible, hread, hrest⟩
    rw [lexemes?_of_result hvisible hread, hrest]
    rfl

/-! ## Cuts -/

/-- Read in the mode, the text begins with the lexemes; the rest is read in the mode `mode'`. -/
def Cuts (mode : Mode) (t : Text) (ls : List Lexeme) (mode' : Mode) (rest : Text) : Prop :=
  lexemes? mode t = (lexemes? mode' rest).map (ls ++ ·)

namespace Cuts

variable {mode mode' mode'' : Mode} {t middle rest : Text} {lexeme : Lexeme} {ls ms : List Lexeme}

theorem of_visible (h : Lexer.visible mode.verbose t = Lexer.visible mode.verbose rest) :
    Cuts mode t [] mode rest := by
  rw [Cuts, lexemes?_congr h]
  simp

theorem done (mode : Mode) (rest : Text) : Cuts mode rest [] mode rest := of_visible rfl

theorem append (hfirst : Cuts mode t ls mode' middle) (hsecond : Cuts mode' middle ms mode'' rest) :
    Cuts mode t (ls ++ ms) mode'' rest := by
  rw [Cuts] at hfirst hsecond ⊢
  rw [hfirst, hsecond, Option.map_map]
  congr 1
  funext ns
  exact (List.append_assoc ls ms ns).symm

theorem cons {c : Char} {t' : Text} (hvisible : Lexer.visible mode.verbose t = c :: t')
    (hread : (Lexer.lexeme mode.verbose c).result t' = some (lexeme, middle))
    (hrest : Cuts (mode.after lexeme) middle ls mode' rest) : Cuts mode t (lexeme :: ls) mode' rest := by
  rw [Cuts] at hrest ⊢
  rw [lexemes?_of_result hvisible hread, hrest, Option.map_map]
  rfl

/-- A text that is cut to its end has these lexemes. -/
theorem lexemes?_eq (h : Cuts mode t ls mode' []) : lexemes? mode t = some ls := by
  rw [Cuts, lexemes?_nil] at h
  simpa using h

/-! ## Signs

Outside the groups of parameters a compiler never turns verbose mode on. -/

variable {outer : List Bool}

/-- One lexeme out of verbose mode. -/
theorem single {c : Char} {u : Text} (h : (Lexer.lexeme false c).result u = some (lexeme, rest)) :
    Cuts ⟨false, outer⟩ (c :: u) [lexeme] (Mode.after ⟨false, outer⟩ lexeme) rest :=
  cons rfl h (.done _ _)

theorem caret (t : Text) : Cuts ⟨false, outer⟩ ('^' :: t) [.caret] ⟨false, outer⟩ t := single rfl

theorem dollar (t : Text) : Cuts ⟨false, outer⟩ ('$' :: t) [.dollar] ⟨false, outer⟩ t := single rfl

/-- A closing bracket is read in any mode, and ends it. -/
theorem groupClosing {verbose next : Bool} (t : Text) :
    Cuts ⟨verbose, next :: outer⟩ (')' :: t) [.groupClosing] ⟨next, outer⟩ t := by
  have hvisible : Lexer.visible verbose (')' :: t) = ')' :: t := by cases verbose <;> rfl
  exact cons hvisible rfl (.done _ _)

/-- A question mark makes an item optional, unless another one follows. -/
theorem question (h : t.head? ≠ some '?') :
    Cuts ⟨false, outer⟩ ('?' :: t) [.repetition 0 (some 1) true] ⟨false, outer⟩ t := by
  refine single ?_
  cases t with
  | nil => rfl
  | cons c t =>
    have hc : c ≠ '?' := by simpa using h
    simp [Lexer.lexeme, Lexer.uncounted, hc]

theorem groupOpening (t : Text) :
    Cuts ⟨false, outer⟩ ("(?:".toList ++ t) [.groupOpening (.scoped [])] ⟨false, false :: outer⟩ t := single rfl

/-! ## Escaped text -/

/-- A special character after a backslash stands for itself. -/
theorem result_escape {c : Char} (h : Pattern.isSpecial c = true) (t : Text) :
    (Lexer.escape false).result (c :: t) = some (.char c, t) := by
  simp only [Pattern.isSpecial, List.mem_cons, List.not_mem_nil, or_false, decide_eq_true_eq] at h
  rcases h with rfl | rfl | rfl | rfl | rfl | rfl | rfl | rfl | rfl | rfl | rfl | rfl | rfl | rfl | rfl | rfl |
    rfl | rfl
  all_goals rfl

/-- A character that is not special stands for itself. -/
theorem result_lexeme {c : Char} (h : Pattern.isSpecial c = false) (t : Text) :
    (Lexer.lexeme false c).result t = some (.char c, t) := by
  unfold Lexer.lexeme
  split
  case h_13 => rfl
  all_goals simp [Pattern.isSpecial] at h

theorem escape (t u : Text) : Cuts ⟨false, outer⟩ (Pattern.escape t ++ u) (t.map .char) ⟨false, outer⟩ u := by
  induction t with
  | nil => exact .done _ u
  | cons c t ih =>
    rw [Pattern.escape, List.flatMap_cons, ← Pattern.escape, List.append_assoc, List.map_cons]
    -- a special character takes a backslash and then itself, any other itself alone
    by_cases hc : Pattern.isSpecial c = true
    · rw [if_pos hc]
      refine .cons rfl ?_ ih
      simp [Lexer.lexeme, result_escape hc]
    · rw [if_neg hc]
      exact .cons rfl (result_lexeme (Bool.not_eq_true _ ▸ hc) _) ih

/-! ## Names of groups -/

/-- The letters of identifiers are letters of the names of groups. -/
theorem isAlphabetic_of_isAlpha {c : Char} (h : c.isAlpha = true) : Unicode.isAlphabetic c = true := by
  have hletters : ∀ n < 0x7B, 0x41 ≤ n → n ≤ 0x5A ∨ 0x61 ≤ n → Unicode.alphabeticRanges.holds n = true := by
    decide +kernel
  have hcode : 0x41 ≤ c.toNat ∧ c.toNat ≤ 0x5A ∨ 0x61 ≤ c.toNat ∧ c.toNat ≤ 0x7A := by
    rcases (Bool.or_eq_true _ _).mp h with hupper | hlower
    · exact Or.inl (of_decide_eq_true hupper)
    · obtain ⟨hleast, hmost⟩ := (Bool.and_eq_true _ _).mp hlower
      exact Or.inr ⟨of_decide_eq_true hleast, of_decide_eq_true hmost⟩
  exact hletters c.toNat (by omega) (by omega) (by omega)

theorem isAlphanumeric_of_isAlphanum {c : Char} (h : c.isAlphanum = true) :
    Unicode.isAlphanumeric c = true := by
  have hdigits : ∀ n < 0x3A, 0x30 ≤ n → Unicode.numberRanges.holds n = true := by decide +kernel
  rw [Char.isAlphanum, Bool.or_eq_true] at h
  rcases h with h | h
  · rw [Unicode.isAlphanumeric, isAlphabetic_of_isAlpha h, Bool.true_or]
  · have hcode : 0x30 ≤ c.toNat ∧ c.toNat ≤ 0x39 := by
      simp only [Char.isDigit, Bool.and_eq_true, decide_eq_true_eq, UInt32.le_iff_toNat_le] at h
      exact h
    have hnumber : Unicode.numberRanges.contains c = true := hdigits c.toNat (by omega) hcode.1
    rw [Unicode.isAlphanumeric, hnumber, Bool.or_true]

/-- Every character of an identifier may stand inside one. -/
theorem continuesIdentifier_of_mem {name : Text} (h : name.isIdentifier = true) :
    ∀ c ∈ name, Text.continuesIdentifier c = true := by
  cases name with
  | nil => simp
  | cons c rest =>
    obtain ⟨hfirst, hrest⟩ := (Bool.and_eq_true _ _).mp h
    intro d hd
    rcases List.mem_cons.1 hd with rfl | hd
    · simp only [Text.startsIdentifier, Bool.or_eq_true] at hfirst
      rcases hfirst with hfirst | hfirst
      · simp [Text.continuesIdentifier, Char.isAlphanum, hfirst]
      · simp [Text.continuesIdentifier, hfirst]
    · exact List.all_eq_true.1 hrest d hd

/-- An identifier can name a group, and no angle bracket ends it too early. -/
theorem result_groupName {name : Text} (h : name.isIdentifier = true) (t : Text) :
    Lexer.groupName.result (name ++ '>' :: t) = some (name, t) := by
  cases name with
  | nil => simp [Text.isIdentifier] at h
  | cons c rest =>
    obtain ⟨hfirst, hrest⟩ := (Bool.and_eq_true _ _).mp h
    have hstart : Lexer.startsGroupName c = true := by
      simp only [Text.startsIdentifier, Bool.or_eq_true] at hfirst
      rcases hfirst with hfirst | hfirst
      · rw [Lexer.startsGroupName, isAlphabetic_of_isAlpha hfirst, Bool.or_true]
      · rw [Lexer.startsGroupName, hfirst, Bool.true_or]
    have hcontinue : rest.all Lexer.continuesGroupName = true := by
      rw [List.all_eq_true] at hrest ⊢
      intro d hd
      have hd := hrest d hd
      simp only [Text.continuesIdentifier, Bool.or_eq_true] at hd
      rcases hd with hd | hd
      · simp [Lexer.continuesGroupName, isAlphanumeric_of_isAlphanum hd]
      · simp [Lexer.continuesGroupName, hd]
    -- the run up to the angle bracket takes the whole name
    have hne : ∀ d ∈ c :: rest, (d != '>') = true := by
      intro d hd
      have hd := continuesIdentifier_of_mem h d hd
      rw [bne_iff_ne]
      rintro rfl
      simp [Text.continuesIdentifier] at hd
    rw [Lexer.groupName, Reader.result_bind, Reader.result_run, List.takeWhile_append_of_pos hne,
      List.dropWhile_append_of_pos hne]
    simp only [bne_self_eq_false, Bool.false_eq_true, not_false_eq_true, List.takeWhile_cons_of_neg,
      List.dropWhile_cons_of_neg, List.append_nil, Option.bind_some, Reader.result_bind,
      Reader.result_expect_cons, if_true, Reader.result_guard, hstart, hcontinue, and_self, Reader.result_pure]

/-- The opening of a group that is named by an identifier. -/
theorem namedOpening {name : Text} (h : name.isIdentifier = true) (t : Text) :
    Cuts ⟨false, outer⟩ ("(?P<".toList ++ name ++ '>' :: t) [.groupOpening (.named name)] ⟨false, false :: outer⟩ t := by
  refine single ?_
  show (Lexer.group false).result ('?' :: 'P' :: '<' :: (name ++ '>' :: t)) = _
  simp [Lexer.group, result_groupName h t]

end Cuts

end PathTemplate.Regex
