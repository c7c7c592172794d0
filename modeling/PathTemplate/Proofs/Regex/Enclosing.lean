/-
# PathTemplate.Proofs.Regex.Enclosing — a valid pattern between the brackets of a group.

A pattern that is valid by itself has a partner for each of its brackets. In a group of a larger pattern it is cut into
the same lexemes therefore, and then the bracket follows that closes the group, in whatever mode the pattern ends. Only
if the pattern ends in a comment, that bracket is never seen: the comment takes it in, and the rest of its line.
There is no third case, and one bracket put behind the pattern shows which of the two it is.

Out of verbose mode there are no comments. So a pattern that never turns it on can stand in any group.
-/
import PathTemplate.Proofs.Regex.Grouping

namespace PathTemplate.Regex

/-! ## Modes in a group -/

/-- The mode of a pattern that stands in groups of which `outer` are the modes. -/
def Mode.under (mode : Mode) (outer : List Bool) : Mode := ⟨mode.verbose, mode.outer ++ outer⟩

@[simp] theorem Mode.verbose_under (mode : Mode) (outer : List Bool) :
    (mode.under outer).verbose = mode.verbose := rfl

/-- Verbose mode is off, and it is off in the groups around. -/
def Mode.IsQuiet (mode : Mode) : Prop := mode.verbose = false ∧ ∀ verbose ∈ mode.outer, verbose = false

/-- If verbose mode is off, does the lexeme leave it off? -/
def Lexeme.staysQuiet : Lexeme → Bool
  | .groupOpening (.scoped settings) => !settings.value .verbose false
  | .flags settings => !settings.value .verbose false
  | _ => true

theorem Mode.IsQuiet.after {mode : Mode} (h : mode.IsQuiet) {lexeme : Lexeme}
    (hlexeme : lexeme.staysQuiet = true) : (mode.after lexeme).IsQuiet := by
  obtain ⟨hverbose, houter⟩ := h
  unfold Mode.after
  split
  · rw [Lexeme.staysQuiet, Bool.not_eq_true'] at hlexeme
    exact ⟨by rw [hverbose, hlexeme], by simpa [hverbose] using houter⟩
  · exact ⟨hverbose, by simpa [hverbose] using houter⟩
  · split
    · exact ⟨hverbose, houter⟩
    · rename_i verbose outer heq
      rw [heq] at houter
      exact ⟨houter verbose List.mem_cons_self, fun v hv => houter v (List.mem_cons_of_mem _ hv)⟩
  · rw [Lexeme.staysQuiet, Bool.not_eq_true'] at hlexeme
    exact ⟨by rw [hverbose, hlexeme], houter⟩
  · exact ⟨hverbose, houter⟩

theorem Assembly.outer_of_addSet? {a a' : Assembly} {s : SizedSet} (h : a.addSet? s = some a') :
    a'.outer.length = a.outer.length := by
  rw [addSet?] at h
  split at h
  · obtain rfl := Option.some.inj h
    rfl
  · simp at h

/-- The groups that are open while a pattern is assembled are those whose modes are kept while it is cut. A lexeme
that can be taken in closes none of the groups around, so it changes the mode under them as it does without them. -/
theorem Mode.after_under [PropertyTable] {a a' : Assembly} {mode : Mode} {lexeme : Lexeme}
    (hstep : a.step? lexeme = some a') (hlength : a.outer.length = mode.outer.length) :
    a'.outer.length = (mode.after lexeme).outer.length ∧
      ∀ outer, (mode.under outer).after lexeme = (mode.after lexeme).under outer := by
  cases lexeme with
  | groupOpening kind =>
    match kind with
    | .plain =>
      obtain rfl := Option.some.inj hstep
      exact ⟨congrArg (· + 1) hlength, fun _ => rfl⟩
    | .named name =>
      rw [Assembly.step?] at hstep
      split at hstep
      · simp at hstep
      · obtain rfl := Option.some.inj hstep
        exact ⟨congrArg (· + 1) hlength, fun _ => rfl⟩
    | .scoped settings =>
      obtain rfl := Option.some.inj hstep
      exact ⟨congrArg (· + 1) hlength, fun _ => rfl⟩
  | groupClosing =>
    obtain ⟨frame, around, count, names⟩ := a
    obtain ⟨verbose, modes⟩ := mode
    cases around with
    | nil => simp [Assembly.step?] at hstep
    | cons next around =>
      cases modes with
      | nil => simp at hlength
      | cons last modes =>
        obtain rfl := Option.some.inj hstep
        exact ⟨Nat.succ.inj hlength, fun _ => rfl⟩
  | repetition least most greedy =>
    obtain ⟨frame, -, hstep⟩ := Option.bind_eq_some_iff.1 hstep
    obtain rfl := Option.some.inj hstep
    exact ⟨hlength, fun _ => rfl⟩
  | byte _ | dot | shorthand _ _ => exact ⟨(Assembly.outer_of_addSet? hstep).trans hlength, fun _ => rfl⟩
  | property _ _ | bracketed _ =>
    obtain ⟨s, -, hstep⟩ := Option.bind_eq_some_iff.1 hstep
    exact ⟨(Assembly.outer_of_addSet? hstep).trans hlength, fun _ => rfl⟩
  | char _ | caret | dollar | textStart | textEnd | wordEdge _ | bar | flags _ =>
    obtain rfl := Option.some.inj hstep
    exact ⟨hlength, fun _ => rfl⟩

/-! ## Cuts before the bracket of the group -/

/-- Before a closing bracket the text is cut into the lexemes, whatever groups are around. -/
def Encloses (mode : Mode) (t : Text) (ls : List Lexeme) (mode' : Mode) : Prop :=
  ∀ outer u, Cuts (mode.under outer) (t ++ ')' :: u) ls (mode'.under outer) (')' :: u)

/-- A closing bracket behind the text, and what follows it on its line, are part of a comment. -/
def Hides (mode : Mode) (t : Text) (ls : List Lexeme) : Prop :=
  ∀ outer u, '\n' ∉ u → lexemes? (mode.under outer) (t ++ ')' :: u) = some ls

/-- A pattern is cut before a closing bracket as it is alone, unless the bracket is in a comment. That needs verbose
mode, which some lexeme has to turn on. -/
theorem encloses_or_hides [PropertyTable] {mode : Mode} {t : Text} {ls : List Lexeme} {a a' : Assembly}
    (hread : lexemes? mode t = some ls) (hlength : a.outer.length = mode.outer.length)
    (hrun : ls.foldlM Assembly.step? a = some a') :
    (∃ mode', mode'.outer.length = a'.outer.length ∧ Encloses mode t ls mode') ∨
      Hides mode t ls ∧ (mode.IsQuiet → ∃ lexeme ∈ ls, lexeme.staysQuiet = false) := by
  -- the induction is on the lexemes; with each of them the mode and the assembly go on together
  induction ls generalizing mode t a with
  | nil =>
    obtain rfl := Option.some.inj hrun
    rcases Lexer.visible_append mode.verbose t with hgoes | ⟨hverbose, -, hhides⟩
    · refine Or.inl ⟨mode, hlength.symm, fun outer u => .of_visible ?_⟩
      have hclosing : Lexer.visible mode.verbose (')' :: u) = ')' :: u := by cases mode.verbose <;> rfl
      rw [Mode.verbose_under, hgoes u, lexemes?_eq_nil_iff.1 hread, hclosing, List.nil_append]
    · refine Or.inr ⟨fun outer u hu => lexemes?_of_nil (hhides u hu), fun hquiet => ?_⟩
      exact nomatch hverbose.symm.trans hquiet.1
  | cons lexeme ls ih =>
    obtain ⟨c, t', rest, hvisible, hlexeme, hrest⟩ := lexemes?_eq_cons_iff.1 hread
    rw [List.foldlM_cons] at hrun
    obtain ⟨middle, hstep, hrun⟩ := Option.bind_eq_some_iff.1 hrun
    obtain ⟨hlength', hafter⟩ := Mode.after_under hstep hlength
    -- a comment that hid the bracket here would have left no character to read
    have hlonger (outer : List Bool) (u : Text) :
        Lexer.visible (mode.under outer).verbose (t ++ ')' :: u) = c :: (t' ++ ')' :: u) := by
      rw [Mode.verbose_under]
      rcases Lexer.visible_append mode.verbose t with hgoes | ⟨-, hend, -⟩
      · rw [hgoes u, hvisible, List.cons_append]
      · exact nomatch hvisible.symm.trans hend
    rcases Lexer.settles_lexeme c t' lexeme rest hlexeme with hgoes | ⟨hverbose, rfl, hhides⟩
    · rcases ih hrest hlength' hrun with ⟨mode', hend, hencloses⟩ | ⟨hhides, hloud⟩
      · refine Or.inl ⟨mode', hend, fun outer u => .cons (hlonger outer u) (hgoes u) ?_⟩
        rw [hafter]
        exact hencloses outer u
      · refine Or.inr ⟨fun outer u hu => ?_, fun hquiet => ?_⟩
        · rw [lexemes?_of_result (hlonger outer u) (hgoes u), hafter, hhides outer u hu, Option.map_some]
        · by_cases hlexeme : lexeme.staysQuiet = true
          · obtain ⟨other, hother, hloud⟩ := hloud (hquiet.after hlexeme)
            exact ⟨other, List.mem_cons_of_mem _ hother, hloud⟩
          · exact ⟨lexeme, List.mem_cons_self, Bool.not_eq_true _ ▸ hlexeme⟩
    · rw [lexemes?_nil] at hrest
      obtain rfl := Option.some.inj hrest
      refine Or.inr ⟨fun outer u hu => ?_, fun hquiet => nomatch hverbose.symm.trans hquiet.1⟩
      rw [lexemes?_of_result (hlonger outer u) (hhides u hu), lexemes?_nil, Option.map_some]

/-! ## Patterns that end in a comment -/

/-- Does the pattern end in a comment? A bracket behind it is not read then. -/
def endsInComment (pattern : Text) : Bool :=
  lexemes? ⟨false, []⟩ (pattern ++ [')']) = lexemes? ⟨false, []⟩ pattern

variable {pattern : Text} {ls : List Lexeme} {a : Assembly}

theorem endsInComment_of_hides (hread : lexemes? ⟨false, []⟩ pattern = some ls) (h : Hides ⟨false, []⟩ pattern ls) :
    endsInComment pattern = true :=
  decide_eq_true ((h [] [] (by simp)).trans hread.symm)

theorem lexemes?_closing (mode : Mode) : lexemes? mode [')'] = some [.groupClosing] := by
  have hvisible : Lexer.visible mode.verbose [')'] = [')'] := by cases mode.verbose <;> rfl
  have hread : (Lexer.lexeme mode.verbose ')').result [] = some (.groupClosing, []) := rfl
  rw [lexemes?_of_result hvisible hread, lexemes?_nil, Option.map_some]

theorem endsInComment_of_encloses {mode' : Mode} (hread : lexemes? ⟨false, []⟩ pattern = some ls)
    (h : Encloses ⟨false, []⟩ pattern ls mode') : endsInComment pattern = false := by
  have hcloses : lexemes? ⟨false, []⟩ (pattern ++ [')']) = some (ls ++ [.groupClosing]) := by
    have hcuts := h [] []
    rw [Cuts, lexemes?_closing, Option.map_some] at hcuts
    exact hcuts
  rw [endsInComment, hcloses, hread]
  simp

/-- A valid pattern that does not end in a comment can stand between the brackets of any group. -/
theorem encloses_of_endsInComment [PropertyTable] (hread : lexemes? ⟨false, []⟩ pattern = some ls)
    (hrun : ls.foldlM Assembly.step? .start = some a) (houter : a.outer = []) (hclosed : endsInComment pattern = false) :
    ∃ mode', mode'.outer = [] ∧ Encloses ⟨false, []⟩ pattern ls mode' := by
  rcases encloses_or_hides hread rfl hrun with ⟨mode', hlength, hencloses⟩ | ⟨hhides, -⟩
  · rw [houter] at hlength
    exact ⟨mode', List.length_eq_zero_iff.1 hlength, hencloses⟩
  · exact nomatch hclosed.symm.trans (endsInComment_of_hides hread hhides)

/-- A valid pattern that ends in a comment hides the bracket of any group that it stands in. -/
theorem hides_of_endsInComment [PropertyTable] (hread : lexemes? ⟨false, []⟩ pattern = some ls)
    (hrun : ls.foldlM Assembly.step? .start = some a) (hopen : endsInComment pattern = true) :
    Hides ⟨false, []⟩ pattern ls := by
  rcases encloses_or_hides hread rfl hrun with ⟨mode', -, hencloses⟩ | ⟨hhides, -⟩
  · exact nomatch hopen.symm.trans (endsInComment_of_encloses hread hencloses)
  · exact hhides

/-- A valid pattern ends in no comment if it never turns verbose mode on. -/
theorem endsInComment_of_staysQuiet [PropertyTable] (hread : lexemes? ⟨false, []⟩ pattern = some ls)
    (hrun : ls.foldlM Assembly.step? .start = some a) (hquiet : ∀ lexeme ∈ ls, lexeme.staysQuiet = true) :
    endsInComment pattern = false := by
  rcases encloses_or_hides hread rfl hrun with ⟨mode', -, hencloses⟩ | ⟨-, hloud⟩
  · exact endsInComment_of_encloses hread hencloses
  · obtain ⟨lexeme, hlexeme, hloud⟩ := hloud ⟨rfl, by simp⟩
    exact nomatch (hquiet lexeme hlexeme).symm.trans hloud

/-! ## Patterns without named groups -/

/-- Does the pattern name no group? -/
def namesNoGroup (pattern : Text) : Bool :=
  (lexemes? ⟨false, []⟩ pattern).any fun lexemes => lexemes.all Assembly.isUnnamed

/-- The lexemes of a valid pattern that names no group, and what is assembled from them. -/
theorem exists_lexemes_of_parse? [PropertyTable] {r : Regex} (hunnamed : namesNoGroup pattern = true)
    (hparse : parse? pattern = some r) :
    ∃ ls a, lexemes? ⟨false, []⟩ pattern = some ls ∧ (∀ lexeme ∈ ls, Assembly.isUnnamed lexeme = true) ∧
      ls.foldlM Assembly.step? .start = some a ∧ a.outer = [] ∧ a.frame.body.expr = r ∧
      nesting? pattern = some a.frame.body.depth := by
  obtain ⟨a, hassemble, houter, _, hexpr⟩ := parse?_eq_some_iff.1 hparse
  obtain ⟨ls, hread, hrun⟩ := Option.bind_eq_some_iff.1 hassemble
  rw [namesNoGroup, hread] at hunnamed
  exact ⟨ls, a, hread, List.all_eq_true.1 hunnamed, hrun, houter, hexpr, nesting?_of_assemble? hassemble houter⟩

end PathTemplate.Regex
