/-
# PathTemplate.Proofs.Regex.Plain — patterns that mean the same wherever they stand.

A pattern is plain if it asserts nothing about the place where it stands, names no group, and sets no flags but
those for case and for what a dot matches. The expression of a plain pattern has no anchors, because neither
lexemes nor normal forms put one in. So the pattern matches the texts of one language, whatever is around it,
and a group with the pattern in it matches the same texts.
-/
import PathTemplate.Proofs.Regex.Enclosing
import PathTemplate.Proofs.Regex.Language

namespace PathTemplate.Regex

/-! ## Plain patterns -/

/-- Are no other flags set than those for case and for the dot? -/
def FlagSettings.isPlain (settings : FlagSettings) : Bool :=
  settings.all fun (flag, _) => flag = .caseless || flag = .dotAll

/-- Is the lexeme neither an assertion nor the opening of a named group, and does it set only plain flags? -/
def Lexeme.isPlain : Lexeme → Bool
  | caret => false
  | dollar => false
  | textStart => false
  | textEnd => false
  | wordEdge _ => false
  | groupOpening (.named _) => false
  | groupOpening (.scoped settings) => settings.isPlain
  | flags settings => settings.isPlain
  | _ => true

/-- Is the pattern plain? -/
def isPlain (pattern : Text) : Bool := (lexemes? ⟨false, []⟩ pattern).any fun lexemes => lexemes.all Lexeme.isPlain

theorem FlagSettings.value_verbose_of_isPlain {settings : FlagSettings} (h : settings.isPlain = true) :
    settings.value .verbose false = false := by
  induction settings with
  | nil => rfl
  | cons setting settings ih =>
    obtain ⟨hsetting, hsettings⟩ := (Bool.and_eq_true _ _).mp h
    obtain ⟨flag, on⟩ := setting
    have hne : (Flag.verbose == flag) = false := by
      rw [beq_eq_false_iff_ne]
      rintro rfl
      simp at hsetting
    rw [FlagSettings.value, List.lookup_cons, hne]
    exact ih hsettings

theorem Lexeme.staysQuiet_of_isPlain {lexeme : Lexeme} (h : lexeme.isPlain = true) :
    lexeme.staysQuiet = true := by
  unfold isPlain at h
  split at h
  case h_7 settings => rw [staysQuiet, FlagSettings.value_verbose_of_isPlain h, Bool.not_false]
  case h_8 settings => rw [staysQuiet, FlagSettings.value_verbose_of_isPlain h, Bool.not_false]
  case h_9 hscoped hflags =>
    unfold staysQuiet
    split
    · exact absurd rfl (hscoped _)
    · exact absurd rfl (hflags _)
    · rfl
  all_goals simp at h

theorem Assembly.isUnnamed_of_isPlain {lexeme : Lexeme} (h : lexeme.isPlain = true) :
    isUnnamed lexeme = true := by
  unfold isUnnamed
  split
  · simp [Lexeme.isPlain] at h
  · rfl

/-! ## Assemblies without anchors -/

/-- Nothing in the group has an anchor. -/
def Frame.AnchorFree (frame : Frame) : Prop :=
  (∀ e ∈ frame.branches, e.expr.anchorFree = true) ∧ ∀ item ∈ frame.items, item.sized.expr.anchorFree = true

namespace Frame.AnchorFree

variable {frame : Frame}

theorem opened (grouping : Grouping) (flags : Flags) : (Frame.opened grouping flags).AnchorFree :=
  ⟨by simp [Frame.opened], by simp [Frame.opened]⟩

theorem add (h : frame.AnchorFree) {e : Sized} (he : e.expr.anchorFree = true) : (frame.add e).AnchorFree := by
  refine ⟨h.1, fun item hitem => ?_⟩
  rcases List.mem_cons.1 hitem with rfl | hitem
  · exact he
  · exact h.2 item hitem

theorem branch (h : frame.AnchorFree) : frame.branch.expr.anchorFree = true := by
  rw [Frame.branch, anchorFree_sequence, List.all_eq_true]
  intro r hr
  simp only [List.mem_map, List.mem_reverse] at hr
  obtain ⟨e, ⟨item, hitem, rfl⟩, rfl⟩ := hr
  exact h.2 item hitem

theorem bar (h : frame.AnchorFree) : frame.bar.AnchorFree := by
  refine ⟨fun e he => ?_, by simp [Frame.bar]⟩
  rcases List.mem_cons.1 he with rfl | he
  · exact h.branch
  · exact h.1 e he

theorem body (h : frame.AnchorFree) : frame.body.expr.anchorFree = true := by
  rw [Frame.body]
  apply anchorFree_choice
  rw [List.all_eq_true]
  intro r hr
  simp only [List.mem_map, List.mem_reverse] at hr
  obtain ⟨e, he, rfl⟩ := hr
  exact h.bar.1 e he

theorem close (h : frame.AnchorFree) : frame.close.expr.anchorFree = true := by
  rw [Frame.close]
  cases frame.grouping <;> exact h.body

theorem repeatLast? (h : frame.AnchorFree) {frame' : Frame} {least : Nat} {most : Option Nat} {greedy : Bool}
    (hframe : frame.repeatLast? least most greedy = some frame') : frame'.AnchorFree := by
  obtain ⟨e, items, hitems, rfl⟩ := Frame.repeatLast?_eq_some_iff.1 hframe
  obtain ⟨hbranches, hall⟩ := h
  rw [hitems] at hall
  refine ⟨hbranches, fun item hitem => ?_⟩
  rcases List.mem_cons.1 hitem with rfl | hitem
  · exact anchorFree_repetition (hall (.expr e) List.mem_cons_self) _ _ _
  · exact hall item (List.mem_cons_of_mem _ hitem)

end Frame.AnchorFree

namespace Assembly

/-- Nothing that has been read has an anchor. -/
def AnchorFree (a : Assembly) : Prop := ∀ frame ∈ a.frame :: a.outer, frame.AnchorFree

variable {a a' : Assembly} {lexeme : Lexeme} {lexemes : List Lexeme}

/-- Another innermost group without anchors. -/
theorem AnchorFree.with_frame (h : a.AnchorFree) {frame : Frame} (hframe : frame.AnchorFree) (count : Nat)
    (names : List Text) : AnchorFree ⟨frame, a.outer, count, names⟩ := by
  intro other hother
  rcases List.mem_cons.1 hother with rfl | hother
  · exact hframe
  · exact h other (List.mem_cons_of_mem _ hother)

theorem AnchorFree.add (h : a.AnchorFree) {e : Sized} (he : e.expr.anchorFree = true) : (a.add e).AnchorFree :=
  h.with_frame ((h _ List.mem_cons_self).add he) _ _

theorem AnchorFree.addSet? (h : a.AnchorFree) {s : SizedSet} (hadd : a.addSet? s = some a') : a'.AnchorFree := by
  rw [Assembly.addSet?] at hadd
  split at hadd
  · obtain rfl := Option.some.inj hadd
    exact h.add (anchorFree_ofSet _)
  · simp at hadd

/-- A group opens in which nothing stands yet. -/
theorem AnchorFree.openGroup (h : a.AnchorFree) (grouping : Grouping) (flags : Flags) (count : Nat)
    (names : List Text) : AnchorFree ⟨.opened grouping flags, a.frame :: a.outer, count, names⟩ := by
  intro other hother
  rcases List.mem_cons.1 hother with rfl | hother
  · exact .opened grouping flags
  · exact h other hother

/-- A plain lexeme puts no anchor in. -/
theorem AnchorFree.step? [PropertyTable] (h : a.AnchorFree) (hlexeme : lexeme.isPlain = true)
    (hstep : a.step? lexeme = some a') : a'.AnchorFree := by
  have hframe := h _ List.mem_cons_self
  cases lexeme with
  | char c =>
    obtain rfl := Option.some.inj hstep
    exact h.add (anchorFree_ofSet _)
  | byte _ | dot | shorthand _ _ => exact h.addSet? hstep
  | property _ _ | bracketed _ =>
    obtain ⟨s, _, hstep⟩ := Option.bind_eq_some_iff.1 hstep
    exact h.addSet? hstep
  | caret => simp [Lexeme.isPlain] at hlexeme
  | dollar => simp [Lexeme.isPlain] at hlexeme
  | textStart => simp [Lexeme.isPlain] at hlexeme
  | textEnd => simp [Lexeme.isPlain] at hlexeme
  | wordEdge edge => simp [Lexeme.isPlain] at hlexeme
  | repetition least most greedy =>
    obtain ⟨frame, hrepeat, hstep⟩ := Option.bind_eq_some_iff.1 hstep
    obtain rfl := Option.some.inj hstep
    exact h.with_frame (hframe.repeatLast? hrepeat) _ _
  | bar =>
    obtain rfl := Option.some.inj hstep
    exact h.with_frame hframe.bar _ _
  | groupOpening kind =>
    match kind with
    | .plain =>
      obtain rfl := Option.some.inj hstep
      exact h.openGroup _ _ _ _
    | .named name => simp [Lexeme.isPlain] at hlexeme
    | .scoped settings =>
      obtain rfl := Option.some.inj hstep
      exact h.openGroup _ _ _ _
  | groupClosing =>
    obtain ⟨frame, outer, count, names⟩ := a
    cases outer with
    | nil => simp [Assembly.step?] at hstep
    | cons next outer =>
      obtain rfl := Option.some.inj hstep
      -- the closed group is an item of the next one; the groups further out stay as they are
      intro other hother
      rcases List.mem_cons.1 hother with rfl | hother
      · exact (h next (List.mem_cons_of_mem _ List.mem_cons_self)).add hframe.close
      · exact h other (List.mem_cons_of_mem _ (List.mem_cons_of_mem _ hother))
  | flags settings =>
    obtain rfl := Option.some.inj hstep
    have hitems : ∀ item ∈ Item.flags :: a.frame.items, item.sized.expr.anchorFree = true := by
      intro item hitem
      rcases List.mem_cons.1 hitem with rfl | hitem
      · rfl
      · exact hframe.2 item hitem
    refine h.with_frame ?_ _ _
    exact ⟨hframe.1, hitems⟩

theorem AnchorFree.foldlM [PropertyTable] (h : a.AnchorFree) (hlexemes : ∀ lexeme ∈ lexemes, lexeme.isPlain = true)
    (hrun : lexemes.foldlM Assembly.step? a = some a') : a'.AnchorFree := by
  induction lexemes generalizing a with
  | nil =>
    obtain rfl := Option.some.inj hrun
    exact h
  | cons lexeme lexemes ih =>
    rw [List.foldlM_cons] at hrun
    obtain ⟨middle, hstep, hrun⟩ := Option.bind_eq_some_iff.1 hrun
    exact ih (h.step? (hlexemes lexeme List.mem_cons_self) hstep)
      (fun other hother => hlexemes other (List.mem_cons_of_mem _ hother)) hrun

theorem anchorFree_start : start.AnchorFree := by
  intro frame hframe
  obtain rfl := List.mem_singleton.1 hframe
  exact .opened _ _

end Assembly

/-! ## Plain patterns taken alone -/

section

variable {pattern : Text}

theorem lexemes?_of_isPlain (h : isPlain pattern = true) :
    ∃ ls, lexemes? ⟨false, []⟩ pattern = some ls ∧ ∀ lexeme ∈ ls, lexeme.isPlain = true := by
  rw [isPlain, Option.any_eq_true_iff_get] at h
  obtain ⟨hsome, hall⟩ := h
  exact ⟨_, (Option.some_get hsome).symm, List.all_eq_true.1 hall⟩

theorem namesNoGroup_of_isPlain (h : isPlain pattern = true) : namesNoGroup pattern = true := by
  obtain ⟨ls, hread, hall⟩ := lexemes?_of_isPlain h
  rw [namesNoGroup, hread]
  exact List.all_eq_true.2 fun lexeme hlexeme => Assembly.isUnnamed_of_isPlain (hall lexeme hlexeme)

/-- A plain pattern never turns verbose mode on, so it has no comments. -/
theorem endsInComment_of_isPlain [PropertyTable] {r : Regex} (h : isPlain pattern = true)
    (hparse : parse? pattern = some r) : endsInComment pattern = false := by
  obtain ⟨ls, a, hread, -, hrun, -⟩ := exists_lexemes_of_parse? (namesNoGroup_of_isPlain h) hparse
  obtain ⟨ls', hread', hall⟩ := lexemes?_of_isPlain h
  obtain rfl := Option.some.inj (hread.symm.trans hread')
  exact endsInComment_of_staysQuiet hread hrun fun lexeme hlexeme => Lexeme.staysQuiet_of_isPlain (hall lexeme hlexeme)

/-- A plain pattern has an expression without anchors. -/
theorem anchorFree_of_isPlain [PropertyTable] {r : Regex} (h : isPlain pattern = true)
    (hparse : parse? pattern = some r) : r.anchorFree = true := by
  obtain ⟨ls, a, hread, -, hrun, -, rfl, -⟩ := exists_lexemes_of_parse? (namesNoGroup_of_isPlain h) hparse
  obtain ⟨ls', hread', hall⟩ := lexemes?_of_isPlain h
  obtain rfl := Option.some.inj (hread.symm.trans hread')
  exact (Assembly.anchorFree_start.foldlM hall hrun _ List.mem_cons_self).body

end

/-- A plain pattern matches the texts of one language wherever it stands. -/
theorem denotes_of_isPlain [PropertyTable] {pattern : Text} {r : Regex} (hplain : isPlain pattern = true)
    (hparse : parse? pattern = some r) : r.ways.Denotes (fullLanguage pattern) :=
  denotes_fullLanguage hparse (anchorFree_of_isPlain hplain hparse)

end PathTemplate.Regex
