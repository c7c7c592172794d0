/-
# PathTemplate.Proofs.Regex.Building — patterns put together from lexemes whose meaning is known.

`Adds lexemes names W depth` says what a stretch of lexemes does to any pattern in whose outermost groups it
stands, as long as no flags are set there: it names the groups `names`, and it adds items that match in the ways
`W` and are nested no deeper than `depth`. Stretches can be put one after another, and there is a rule for each
thing a compiler writes: text, a pattern without named groups in a named group, and a group that may be left out.

The items are atoms, so that neither sequences nor choices reach into them.
-/
import PathTemplate.Proofs.Regex.Plain
import PathTemplate.Proofs.Regex.Search

namespace PathTemplate.Regex

/-! ## Small expressions -/

theorem ofSet_single (c : Char) : ofSet (.single c) = literal [c] := by
  simp [ofSet, CharSet.single?, CharSet.single]

/-- What may be left out stays a repetition, whatever it is. -/
theorem repetition_optional (body : Regex) (greedy : Bool) :
    repetition body 0 (some 1) greedy = repeated body 0 (some 1) greedy := by
  have hbounds : body.bounds 0 (some 1) = (0, some 1) := by
    unfold bounds
    split <;> rfl
  rw [repetition, hbounds]
  rfl

theorem ways_optional (body : Regex) (greedy : Bool) :
    (repetition body 0 (some 1) greedy).ways = body.ways.either .nothing := by
  have hallowed (n : Nat) : Allowed 0 (some 1) n ↔ n = 1 ∨ n = 0 := by
    simp only [Allowed, Option.some.injEq]
    constructor
    · rintro ⟨_, h⟩
      have := h 1 rfl
      omega
    · rintro (rfl | rfl)
      · exact ⟨Nat.zero_le 1, by rintro m rfl; decide⟩
      · exact ⟨Nat.le_refl 0, by omega⟩
  rw [repetition_optional, ways, Ways.times_congr hallowed, ← Ways.times_either_nothing, Ways.times_eq,
    Ways.power_succ, Ways.power, Ways.andThen_nothing]

/-- A chain is one level deeper than its deepest link at the most. -/
theorem chainDepth_le {es : List Sized} {depth : Nat} (h : ∀ e ∈ es, e.depth ≤ depth) :
    chainDepth es ≤ depth + 1 := by
  have hfold (es : List Sized) (start : Nat) (hstart : start ≤ depth) (h : ∀ e ∈ es, e.depth ≤ depth) :
      es.foldl (fun depth e => max depth e.depth) start ≤ depth := by
    induction es generalizing start with
    | nil => exact hstart
    | cons e es ih =>
      exact ih _ (Nat.max_le.2 ⟨hstart, h e List.mem_cons_self⟩)
        fun other hother => h other (List.mem_cons_of_mem _ hother)
  match es with
  | [] => exact Nat.zero_le _
  | [e] => exact Nat.le_succ_of_le (h e List.mem_cons_self)
  | _ :: _ :: _ => exact Nat.succ_le_succ (hfold _ 0 (Nat.zero_le _) h)

namespace Assembly

/-! ## Stretches of lexemes -/

/-- The assembly with more items in its innermost group, which have given out numbers and names. -/
def addItems (c : Assembly) (es : List Sized) (count : Nat) (names : List Text) : Assembly :=
  ⟨{ c.frame with items := (es.map Item.expr).reverse ++ c.frame.items }, c.outer, count,
    names.reverse ++ c.names⟩

/-- What stands in a group of one alternative, if it is made of atoms. -/
theorem body_of_isAtom {frame : Frame} {es : List Sized} (hbranches : frame.branches = [])
    (hitems : frame.items = (es.map Item.expr).reverse) (hatoms : ∀ e ∈ es, e.expr.isAtom = true) :
    frame.body = ⟨sequence (es.map (·.expr)), chainDepth es⟩ := by
  have hbranch : frame.branch = ⟨sequence (es.map (·.expr)), chainDepth es⟩ := by
    have hsized : (es.map Item.expr).map Item.sized = es := by
      rw [List.map_map]
      exact List.map_id es
    rw [Frame.branch, hitems, List.reverse_reverse, hsized]
  have hchoice : choice [sequence (es.map (·.expr))] = sequence (es.map (·.expr)) := by
    apply choice_sequence_of_isAtom
    intro r hr
    obtain ⟨e, he, rfl⟩ := List.mem_map.1 hr
    exact hatoms e he
  rw [Frame.body, hbranch, hbranches]
  simp [hchoice, chainDepth]

variable [PropertyTable]

/-- A group without a name closes in which only atoms stand. -/
theorem step?_groupClosing_of_isAtom (c : Assembly) (es : List Sized) (count : Nat) (names : List Text)
    (hatoms : ∀ e ∈ es, e.expr.isAtom = true) :
    ((c.openGroup .plain c.frame.flags).addItems es count names).step? .groupClosing =
      some ⟨c.frame.add ⟨sequence (es.map (·.expr)), chainDepth es + 1⟩, c.outer, count,
        names.reverse ++ c.names⟩ := by
  have hbody : ((c.openGroup .plain c.frame.flags).addItems es count names).frame.body =
      ⟨sequence (es.map (·.expr)), chainDepth es⟩ :=
    body_of_isAtom rfl (List.append_nil _) hatoms
  have hframe : ((c.openGroup .plain c.frame.flags).addItems es count names).frame.close =
      ⟨sequence (es.map (·.expr)), chainDepth es + 1⟩ := by
    rw [Frame.close, hbody]
    rfl
  rw [← hframe]
  rfl

/-- The last item becomes optional. -/
theorem step?_optional {c : Assembly} (hflags : c.frame.flags = .default) (e : Sized) (count : Nat)
    (names : List Text) :
    step? ⟨c.frame.add e, c.outer, count, names.reverse ++ c.names⟩ (.repetition 0 (some 1) true) =
      some (c.addItems [⟨repetition e.expr 0 (some 1) true, e.depth + 1⟩] count names) := by
  have hgreedy : (true != (c.frame.add e).flags.swapGreed) = true := by
    show (true != c.frame.flags.swapGreed) = true
    rw [hflags]
    rfl
  rw [step?, Frame.repeatLast?_eq_some_iff.2 ⟨e, c.frame.items, rfl, rfl⟩, hgreedy]
  rfl

/-- Outside all flags the lexemes add items that match in the given ways, and name groups. -/
def Adds (lexemes : List Lexeme) (names : List Text) (W : Ways) (depth : Nat) : Prop :=
  ∀ c : Assembly, c.frame.flags = .default → (∀ name ∈ names, name ∉ c.names) → names.Nodup →
    ∃ es count, lexemes.foldlM step? c = some (c.addItems es count names) ∧
      (∀ e ∈ es, e.expr.isAtom = true ∧ e.depth ≤ depth) ∧ waysAll (es.map (·.expr)) = W

namespace Adds

variable {ls ms : List Lexeme} {names more : List Text} {V W : Ways} {depth depth' : Nat}

theorem nil (depth : Nat) : Adds [] [] .nothing depth := by
  intro c _ _ _
  exact ⟨[], c.count, rfl, by simp, rfl⟩

theorem mono (h : Adds ls names W depth) (hle : depth ≤ depth') : Adds ls names W depth' := by
  intro c hflags hnew hnodup
  obtain ⟨es, count, hrun, hes, hways⟩ := h c hflags hnew hnodup
  exact ⟨es, count, hrun, fun e he => ⟨(hes e he).1, Nat.le_trans (hes e he).2 hle⟩, hways⟩

theorem append (hfirst : Adds ls names V depth) (hsecond : Adds ms more W depth) :
    Adds (ls ++ ms) (names ++ more) (V.andThen W) depth := by
  intro c hflags hnew hnodup
  obtain ⟨hnames, hmore, hdisjoint⟩ := List.nodup_append.1 hnodup
  obtain ⟨es, count, hrun, hes, hways⟩ :=
    hfirst c hflags (fun name hname => hnew name (List.mem_append_left _ hname)) hnames
  -- a name of the second stretch is new even after the first one has named its groups
  have hnew' : ∀ name ∈ more, name ∉ (c.addItems es count names).names := by
    intro name hname hmem
    rcases List.mem_append.1 hmem with hmem | hmem
    · exact hdisjoint name (List.mem_reverse.1 hmem) name hname rfl
    · exact hnew name (List.mem_append_right _ hname) hmem
  obtain ⟨es', count', hrun', hes', hways'⟩ := hsecond (c.addItems es count names) hflags hnew' hmore
  refine ⟨es ++ es', count', ?_, ?_, ?_⟩
  · rw [foldlM_append_of_foldlM hrun, hrun']
    simp [addItems]
  · intro e he
    rcases List.mem_append.1 he with he | he
    · exact hes e he
    · exact hes' e he
  · rw [List.map_append, waysAll_append, hways, hways']

/-- One lexeme that adds one atom. -/
theorem single {lexeme : Lexeme} {r : Regex} (hatom : r.isAtom = true)
    (hstep : ∀ c : Assembly, c.frame.flags = .default → c.step? lexeme = some (c.add ⟨r, 0⟩)) (depth : Nat) :
    Adds [lexeme] [] r.ways depth := by
  intro c hflags _ _
  refine ⟨[⟨r, 0⟩], c.count, ?_, by simp [hatom], Ways.andThen_nothing _⟩
  rw [foldlM_cons_of_step? (hstep c hflags)]
  rfl

/-- Characters stand for themselves. -/
theorem chars (t : Text) (depth : Nat) : Adds (t.map .char) [] (.text t) depth := by
  induction t with
  | nil => exact nil depth
  | cons ch t ih =>
    have hone : Adds [.char ch] [] (.text [ch]) depth := by
      refine single (r := literal [ch]) rfl (fun c hflags => ?_) depth
      have hclose : c.frame.flags.forSets.close (.single ch) = .single ch := by
        rw [hflags]
        rfl
      show some (c.add ⟨ofSet (c.frame.flags.forSets.close (.single ch)), 0⟩) = _
      rw [hclose, ofSet_single]
    have happend := hone.append ih
    rwa [Ways.text_andThen_text] at happend

/-- A pattern without named groups in a group under a name. -/
theorem namedGroup {lexemes : List Lexeme} {a : Assembly} (houter : a.outer = [])
    (hunnamed : ∀ lexeme ∈ lexemes, isUnnamed lexeme = true) (hrun : lexemes.foldlM step? start = some a)
    (name : Text) :
    Adds (.groupOpening (.named name) :: (lexemes ++ [.groupClosing])) [name]
      (.group name a.frame.body.expr.ways) (a.frame.body.depth + 1) := by
  intro c hflags hnew _
  have hgroup := foldlM_group (c := { c with names := name :: c.names }) houter hunnamed hrun hflags (.named name)
  refine ⟨[⟨.named name (a.frame.body.expr.renumber c.count), a.frame.body.depth + 1⟩], a.count + c.count, ?_,
    by simp [isAtom], ?_⟩
  · have hopen : c.step? (.groupOpening (.named name)) =
        some (({ c with names := name :: c.names } : Assembly).openGroup (.named name) c.frame.flags) :=
      if_neg (hnew name List.mem_cons_self)
    rw [foldlM_cons_of_step? hopen, hgroup]
    rfl
  · show (Ways.group name (a.frame.body.expr.renumber c.count).ways).andThen .nothing = _
    rw [Ways.andThen_nothing, ways_renumber]

/-- A group without a name that may be left out. -/
theorem optional (h : Adds ls names W depth) :
    Adds (.groupOpening (.scoped []) :: (ls ++ [.groupClosing, .repetition 0 (some 1) true])) names
      (W.either .nothing) (depth + 3) := by
  intro c hflags hnew hnodup
  obtain ⟨es, count, hrun, hes, hways⟩ := h (c.openGroup .plain c.frame.flags) hflags hnew hnodup
  have hopen : c.step? (.groupOpening (.scoped [])) = some (c.openGroup .plain c.frame.flags) := rfl
  have hclose := step?_groupClosing_of_isAtom c es count names fun e he => (hes e he).1
  refine ⟨[⟨repetition (sequence (es.map (·.expr))) 0 (some 1) true, chainDepth es + 2⟩], count, ?_, ?_, ?_⟩
  · rw [foldlM_cons_of_step? hopen, foldlM_append_of_foldlM hrun, foldlM_cons_of_step? hclose,
      foldlM_cons_of_step? (step?_optional hflags _ _ _)]
    rfl
  · intro e he
    obtain rfl := List.mem_singleton.1 he
    have hdepth := chainDepth_le fun e he => (hes e he).2
    rw [repetition_optional]
    exact ⟨rfl, show chainDepth es + 2 ≤ depth + 3 by omega⟩
  · show (repetition (sequence (es.map (·.expr))) 0 (some 1) true).ways.andThen .nothing = _
    rw [Ways.andThen_nothing, ways_optional, ways_sequence, hways]

/-- The start of the text. -/
theorem caret (depth : Nat) : Adds [.caret] [] (.anchor .textStart) depth := by
  refine single (r := anchor .textStart) rfl (fun c hflags => ?_) depth
  show some (c.addAnchor c.frame.flags.caret) = _
  rw [hflags]
  rfl

/-- The end of the text. -/
theorem dollar (depth : Nat) : Adds [.dollar] [] (.anchor .textEnd) depth := by
  refine single (r := anchor .textEnd) rfl (fun c hflags => ?_) depth
  show some (c.addAnchor c.frame.flags.dollar) = _
  rw [hflags]
  rfl

/-- A whole pattern of these lexemes matches in these ways. -/
theorem assemble?_of_cuts {t : Text} {mode : Mode} (h : Adds ls names W depth) (hcuts : Cuts ⟨false, []⟩ t ls mode [])
    (hnodup : names.Nodup) :
    ∃ a, assemble? t = some a ∧ a.outer = [] ∧ a.frame.body.expr.ways = W ∧ a.frame.body.depth ≤ depth + 1 := by
  obtain ⟨es, count, hrun, hes, hways⟩ := h start rfl (by simp [start]) hnodup
  have hbody : (start.addItems es count names).frame.body = ⟨sequence (es.map (·.expr)), chainDepth es⟩ :=
    body_of_isAtom rfl (List.append_nil _) fun e he => (hes e he).1
  refine ⟨start.addItems es count names, ?_, rfl, ?_, ?_⟩
  · rw [assemble?, hcuts.lexemes?_eq]
    exact hrun
  · rw [hbody, ways_sequence, hways]
  · rw [hbody]
    exact chainDepth_le fun e he => (hes e he).2

end Adds

end Assembly

/-! ## Spelled lexemes -/

/-- Out of verbose mode and before anything but a question mark the text is cut into the lexemes, and verbose mode is
off after them. The text does not itself begin with a question mark then. -/
def Spells (t : Text) (lexemes : List Lexeme) : Prop :=
  ∀ outer u, u.head? ≠ some '?' →
    (t ++ u).head? ≠ some '?' ∧ Cuts ⟨false, outer⟩ (t ++ u) lexemes ⟨false, outer⟩ u

namespace Spells

variable {t u : Text} {ls ms : List Lexeme}

theorem nil : Spells [] [] := fun _ u hu => ⟨hu, .done _ u⟩

theorem append (ht : Spells t ls) (hu : Spells u ms) : Spells (t ++ u) (ls ++ ms) := by
  intro outer v hv
  obtain ⟨hhead, hcuts⟩ := hu outer v hv
  obtain ⟨hhead', hcuts'⟩ := ht outer (u ++ v) hhead
  rw [List.append_assoc]
  exact ⟨hhead', hcuts'.append hcuts⟩

/-- The first character of an escaped text is never a question mark. -/
theorem escape (t : Text) : Spells (Pattern.escape t) (t.map .char) := by
  intro outer u hu
  refine ⟨?_, Cuts.escape t u⟩
  cases t with
  | nil => exact hu
  | cons c t =>
    rw [Pattern.escape, List.flatMap_cons]
    by_cases hc : Pattern.isSpecial c = true
    · rw [if_pos hc]
      simp
    · rw [if_neg hc]
      have hne : c ≠ '?' := by
        rintro rfl
        exact hc (by decide)
      simpa using hne

/-- A pattern that can stand between brackets, in the group of a parameter. The group's end also ends the mode that
the pattern leads to. -/
theorem namedGroup {name fragment : Text} {mode : Mode} (hname : name.isIdentifier = true)
    (h : Encloses ⟨false, []⟩ fragment ls mode) (hmode : mode.outer = []) :
    Spells ("(?P<".toList ++ name ++ '>' :: fragment ++ [')'])
      (.groupOpening (.named name) :: (ls ++ [.groupClosing])) := by
  intro outer u _
  refine ⟨by simp, ?_⟩
  have htext : "(?P<".toList ++ name ++ '>' :: fragment ++ [')'] ++ u =
      "(?P<".toList ++ name ++ '>' :: (fragment ++ ')' :: u) := by simp
  have hfragment := h (false :: outer) u
  rw [Mode.under, Mode.under, hmode] at hfragment
  rw [htext]
  exact (Cuts.namedOpening hname _).append (hfragment.append (.groupClosing u))

theorem optional (h : Spells t ls) :
    Spells ("(?:".toList ++ t ++ ")?".toList)
      (.groupOpening (.scoped []) :: (ls ++ [.groupClosing, .repetition 0 (some 1) true])) := by
  intro outer u hu
  refine ⟨by simp, ?_⟩
  have htext : "(?:".toList ++ t ++ ")?".toList ++ u = "(?:".toList ++ (t ++ ')' :: '?' :: u) := by simp
  rw [htext]
  exact (Cuts.groupOpening _).append
    ((h (false :: outer) (')' :: '?' :: u) (by simp)).2.append ((Cuts.groupClosing _).append (.question hu)))

theorem anchored (h : Spells t ls) : Cuts ⟨false, []⟩ ('^' :: t ++ ['$']) (.caret :: (ls ++ [.dollar])) ⟨false, []⟩ [] :=
  (Cuts.caret _).append ((h [] ['$'] (by simp)).2.append (.dollar []))

end Spells

/-! ## Whole texts -/

/-- A match may begin and end anywhere, but the anchors hold only at the ends of the text. -/
theorem Ways.anchored_iff {W : Ways} {before taken after : Text} {marks : List Mark} :
    ((Ways.anchor .textStart).andThen (W.andThen (Ways.anchor .textEnd))) before taken after marks ↔
      before = [] ∧ after = [] ∧ W [] taken [] marks := by
  constructor
  · rintro ⟨_, _, _, _, rfl, rfl, ⟨rfl, rfl, hstart⟩, taken, _, marks, _, rfl, rfl, hW, rfl, rfl, hend⟩
    have hbefore : before = [] := by
      simpa [Anchor.holds] using hstart
    have hafter : after = [] := by
      simpa [Anchor.holds] using hend
    subst hbefore hafter
    exact ⟨rfl, rfl, by simpa using hW⟩
  · rintro ⟨rfl, rfl, hW⟩
    exact ⟨[], taken, [], marks, rfl, by simp, ⟨rfl, rfl, rfl⟩, taken, [], marks, [], by simp, rfl, by simpa using hW,
      rfl, rfl, rfl⟩

variable {r : Regex} {W : Ways}

/-- An anchored pattern matches a text exactly if the text is taken from end to end. -/
theorem isMatch_of_ways_eq (h : r.ways = (Ways.anchor .textStart).andThen (W.andThen (Ways.anchor .textEnd)))
    (path : Text) : r.isMatch path = true ↔ ∃ marks, W [] path [] marks := by
  rw [isMatch_iff_ways, h]
  constructor
  · rintro ⟨before, taken, after, marks, rfl, hways⟩
    obtain ⟨rfl, rfl, hW⟩ := Ways.anchored_iff.1 hways
    exact ⟨marks, by simpa using hW⟩
  · rintro ⟨marks, hW⟩
    exact ⟨[], path, [], marks, by simp, Ways.anchored_iff.2 ⟨rfl, rfl, hW⟩⟩

/-- The marks that an anchored pattern leaves are those of a way to take the text from end to end. -/
theorem ways_of_find?_of_ways_eq (h : r.ways = (Ways.anchor .textStart).andThen (W.andThen (Ways.anchor .textEnd)))
    {path : Text} {marks : List Mark} (hfind : r.find? path = some marks) : W [] path [] marks := by
  obtain ⟨before, taken, after, rfl, hways⟩ := ways_of_find? hfind
  rw [h] at hways
  obtain ⟨rfl, rfl, hW⟩ := Ways.anchored_iff.1 hways
  simpa using hW

end PathTemplate.Regex
