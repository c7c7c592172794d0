/-
# PathTemplate.Proofs.Regex.Grouping — a pattern in a group of a larger pattern.

A pattern that is assembled alone begins with no group open. In a group of a larger pattern the same lexemes are
taken in while other groups are open around, and some numbers of groups have been given out. `inside` carries
the one assembly over to the other: the frames of the lone assembly lie on top of those around, the lowest of
them is the group, and all numbers are raised. One lexeme keeps the two in step, and so does a whole run. When
the group closes, the expression of the lone pattern is an item of the larger one.

This needs that the pattern names no groups. Flags that it sets end with the group.
-/
import PathTemplate.Proofs.Regex.Cutting
import PathTemplate.Proofs.Regex.Normal
import PathTemplate.Regex.Assembly

namespace PathTemplate.Regex

/-! ## Assembling without a limit -/

section

variable [PropertyTable]

/-- All of a pattern's lexemes taken in. -/
def assemble? (pattern : Text) : Option Assembly := do
  (← lexemes? ⟨false, []⟩ pattern).foldlM Assembly.step? .start

/-- How deep the pattern is nested, if every bracket has its partner. -/
def nesting? (pattern : Text) : Option Nat := do
  let a ← assemble? pattern
  if a.outer.isEmpty then return a.frame.body.depth else none

theorem nesting?_of_assemble? {pattern : Text} {a : Assembly} (h : assemble? pattern = some a)
    (houter : a.outer = []) : nesting? pattern = some a.frame.body.depth := by
  rw [nesting?, h]
  show (if a.outer.isEmpty then _ else _) = _
  rw [houter]
  rfl

theorem parse?_eq_some_iff {pattern : Text} {r : Regex} :
    parse? pattern = some r ↔ ∃ a, assemble? pattern = some a ∧ a.outer = [] ∧
      a.frame.body.depth ≤ Assembly.depthLimit ∧ a.frame.body.expr = r := by
  have hparse : parse? pattern = (assemble? pattern).bind Assembly.finish? := by
    unfold parse? assemble?
    cases lexemes? ⟨false, []⟩ pattern <;> rfl
  rw [hparse, Option.bind_eq_some_iff]
  simp [Assembly.finish?, and_assoc]

/-- A valid pattern keeps to the limit. -/
theorem nesting?_le_of_isValid {pattern : Text} {d : Nat} (h : isValid pattern = true) (hd : nesting? pattern = some d) :
    d ≤ Assembly.depthLimit := by
  obtain ⟨r, hparse⟩ := Option.isSome_iff_exists.1 h
  obtain ⟨a, hassemble, houter, hdepth, -⟩ := parse?_eq_some_iff.1 hparse
  obtain rfl := Option.some.inj ((nesting?_of_assemble? hassemble houter).symm.trans hd)
  exact hdepth

end

namespace Assembly

/-! ## Runs -/

variable [PropertyTable] {a a' : Assembly} {lexeme : Lexeme} {first second : List Lexeme}

theorem foldlM_cons_of_step? (h : a.step? lexeme = some a') :
    (lexeme :: first).foldlM step? a = first.foldlM step? a' := by
  rw [List.foldlM_cons, h]
  rfl

theorem foldlM_append_of_foldlM (h : first.foldlM step? a = some a') :
    (first ++ second).foldlM step? a = second.foldlM step? a' := by
  rw [List.foldlM_append, h]
  rfl

end Assembly

/-! ## Raising the numbers in what has been read -/

/-- The expression with its numbers raised. -/
def Sized.renumber (n : Nat) (e : Sized) : Sized := ⟨e.expr.renumber n, e.depth⟩

/-- The item with its numbers raised. -/
def Item.renumber (n : Nat) : Item → Item
  | expr e => expr (e.renumber n)
  | flags => flags

/-- The purpose of a group with its number raised. -/
def Grouping.renumber (n : Nat) : Grouping → Grouping
  | plain => plain
  | numbered number => numbered (number + n)
  | named name => named name

/-- The group with all numbers raised. -/
def Frame.renumber (n : Nat) (frame : Frame) : Frame :=
  ⟨frame.grouping.renumber n, frame.flags, frame.branches.map (Sized.renumber n),
    frame.items.map (Item.renumber n)⟩

section Renumber

variable (n : Nat)

@[simp] theorem Item.sized_renumber (item : Item) : (item.renumber n).sized = item.sized.renumber n := by
  cases item <;> rfl

theorem map_expr_renumber (es : List Sized) :
    (es.map (Sized.renumber n)).map (·.expr) = (es.map (·.expr)).map (Regex.renumber n) := by
  rw [List.map_map, List.map_map]
  rfl

theorem chainDepth_renumber (es : List Sized) : chainDepth (es.map (Sized.renumber n)) = chainDepth es := by
  match es with
  | [] => rfl
  | [_] => rfl
  | _ :: _ :: _ => simp [chainDepth, Sized.renumber, List.foldl_map]

theorem Grouping.wrap_renumber (grouping : Grouping) (body : Regex) :
    (grouping.renumber n).wrap (body.renumber n) = (grouping.wrap body).renumber n := by
  cases grouping <;> rfl

theorem Frame.branch_renumber (frame : Frame) : (frame.renumber n).branch = frame.branch.renumber n := by
  have hitems : (frame.items.map (Item.renumber n)).reverse.map Item.sized =
      (frame.items.reverse.map Item.sized).map (Sized.renumber n) := by
    rw [← List.map_reverse, List.map_map, List.map_map]
    exact List.map_congr_left fun item _ => Item.sized_renumber n item
  simp only [Frame.branch, Frame.renumber, hitems, chainDepth_renumber, map_expr_renumber, sequence_renumber]
  rfl

theorem Frame.body_renumber (frame : Frame) : (frame.renumber n).body = frame.body.renumber n := by
  have hbranches : (frame.branch.renumber n :: frame.branches.map (Sized.renumber n)).reverse =
      (frame.branch :: frame.branches).reverse.map (Sized.renumber n) := by
    rw [← List.map_cons, List.map_reverse]
  simp only [Frame.body, Frame.branch_renumber]
  simp only [Frame.renumber, hbranches, chainDepth_renumber, map_expr_renumber, choice_renumber]
  rfl

theorem Frame.close_renumber (frame : Frame) : (frame.renumber n).close = frame.close.renumber n := by
  simp only [Frame.close, Frame.body_renumber]
  simp only [Frame.renumber, Sized.renumber, Grouping.wrap_renumber]

end Renumber

theorem Frame.repeatLast?_eq_some_iff {frame frame' : Frame} {least : Nat} {most : Option Nat} {greedy : Bool} :
    frame.repeatLast? least most greedy = some frame' ↔ ∃ e items, frame.items = .expr e :: items ∧
      frame' = { frame with
        items := .expr ⟨repetition e.expr least most (greedy != frame.flags.swapGreed), e.depth + 1⟩ :: items } := by
  unfold Frame.repeatLast?
  split
  · rename_i e items heq
    constructor
    · intro h
      exact ⟨e, items, heq, (Option.some.inj h).symm⟩
    · rintro ⟨e', items', heq', rfl⟩
      obtain ⟨he, rfl⟩ := List.cons.inj (heq.symm.trans heq')
      obtain rfl := Item.expr.inj he
      rfl
  · rename_i hne
    simp only [reduceCtorEq, false_iff]
    rintro ⟨e, items, heq, _⟩
    exact hne e items heq

/-! ## The lone assembly in a larger one -/

/-- The purpose of the innermost group and the groups around it, when a lone pattern stands in a group: the
lowest of its groups is that group, and below it are the groups around. -/
def nest (n : Nat) (grouping : Grouping) (around : List Frame) : Grouping → List Frame → Grouping × List Frame
  | _, [] => (grouping, around)
  | own, next :: rest =>
    let (lower, outer) := nest n grouping around next.grouping rest
    (own.renumber n, { next.renumber n with grouping := lower } :: outer)

namespace Assembly

/-- The assembly `a` of a pattern that stands in a group of the larger pattern that `c` has assembled so far. -/
def inside (a : Assembly) (grouping : Grouping) (c : Assembly) : Assembly :=
  let (own, outer) := nest c.count grouping (c.frame :: c.outer) a.frame.grouping a.outer
  ⟨{ a.frame.renumber c.count with grouping := own }, outer, a.count + c.count, c.names⟩

/-- Does the lexeme name no group? -/
def isUnnamed : Lexeme → Bool
  | .groupOpening (.named _) => false
  | _ => true

variable {a a' c : Assembly} {grouping : Grouping} {lexeme : Lexeme} {lexemes : List Lexeme}

theorem inside_add (e : Sized) :
    (a.add e).inside grouping c = (a.inside grouping c).add (e.renumber c.count) := rfl

theorem inside_addSet? {s : SizedSet} (h : a.addSet? s = some a') :
    (a.inside grouping c).addSet? s = some (a'.inside grouping c) := by
  have hflags : (a.inside grouping c).frame.flags = a.frame.flags := rfl
  rw [addSet?] at h ⊢
  rw [hflags]
  split at h
  · rename_i hallows
    obtain rfl := Option.some.inj h
    rw [if_pos hallows, inside_add, Sized.renumber, ofSet_renumber]
  · simp at h

/-- A group that has just been opened is the empty lone assembly, carried over. -/
theorem openGroup_eq_inside (hflags : c.frame.flags = .default) (grouping : Grouping) :
    c.openGroup grouping c.frame.flags = start.inside grouping c := by
  rw [hflags, openGroup, inside, start, Nat.zero_add]
  rfl

variable [PropertyTable]

/-- A lexeme keeps the lone assembly and the one inside in step. -/
theorem step?_inside (hlexeme : isUnnamed lexeme = true) (h : a.step? lexeme = some a') :
    (a.inside grouping c).step? lexeme = some (a'.inside grouping c) := by
  -- all lexemes but those for groups change the innermost group alone, where `inside` only raises numbers
  cases lexeme with
  | char ch =>
    obtain rfl := Option.some.inj h
    rw [inside_add, Sized.renumber, ofSet_renumber]
    rfl
  | byte ch => exact inside_addSet? h
  | dot => exact inside_addSet? h
  | shorthand s negated => exact inside_addSet? h
  | property name negated =>
    obtain ⟨s, hs, h⟩ := Option.bind_eq_some_iff.1 h
    exact Option.bind_eq_some_iff.2 ⟨s, hs, inside_addSet? h⟩
  | bracketed ls =>
    obtain ⟨s, hs, h⟩ := Option.bind_eq_some_iff.1 h
    exact Option.bind_eq_some_iff.2 ⟨s, hs, inside_addSet? h⟩
  | caret => exact Option.some.inj h ▸ rfl
  | dollar => exact Option.some.inj h ▸ rfl
  | textStart => exact Option.some.inj h ▸ rfl
  | textEnd => exact Option.some.inj h ▸ rfl
  | wordEdge edge => exact Option.some.inj h ▸ rfl
  | repetition least most greedy =>
    obtain ⟨frame, hframe, h⟩ := Option.bind_eq_some_iff.1 h
    obtain rfl := Option.some.inj h
    obtain ⟨e, items, hitems, rfl⟩ := Frame.repeatLast?_eq_some_iff.1 hframe
    have hinside : (a.inside grouping c).frame.repeatLast? least most greedy =
        some { (a.inside grouping c).frame with
          items := .expr ⟨repetition (e.expr.renumber c.count) least most (greedy != a.frame.flags.swapGreed),
            e.depth + 1⟩ :: items.map (Item.renumber c.count) } :=
      Frame.repeatLast?_eq_some_iff.2 ⟨e.renumber c.count, items.map (Item.renumber c.count),
        by simp [inside, Frame.renumber, hitems, Item.renumber], rfl⟩
    rw [step?, hinside, repetition_renumber]
    rfl
  | bar =>
    obtain rfl := Option.some.inj h
    have hbranch : (a.inside grouping c).frame.branch = a.frame.branch.renumber c.count :=
      Frame.branch_renumber c.count a.frame
    rw [step?, Frame.bar, hbranch]
    rfl
  | groupOpening kind =>
    match kind with
    | .plain =>
      obtain rfl := Option.some.inj h
      have hcount : a.count + c.count + 1 = a.count + 1 + c.count := Nat.add_right_comm _ _ _
      simp only [step?, inside, openGroup, hcount]
      rfl
    | .named name => simp [isUnnamed] at hlexeme
    | .scoped settings => exact Option.some.inj h ▸ rfl
  | groupClosing =>
    obtain ⟨frame, outer, count, names⟩ := a
    cases outer with
    | nil => simp [step?] at h
    | cons next outer =>
      obtain rfl := Option.some.inj h
      -- the group below becomes the innermost; it may be the group that the pattern stands in
      have hstep : ((⟨frame, next :: outer, count, names⟩ : Assembly).inside grouping c).step? .groupClosing =
          some ⟨{ next.renumber c.count with
              grouping := (nest c.count grouping (c.frame :: c.outer) next.grouping outer).1 }.add
                (frame.renumber c.count).close,
            (nest c.count grouping (c.frame :: c.outer) next.grouping outer).2, count + c.count, c.names⟩ := rfl
      rw [hstep, Frame.close_renumber]
      rfl
  | flags settings => exact Option.some.inj h ▸ rfl

/-- So does a whole run. -/
theorem foldlM_inside (hlexemes : ∀ lexeme ∈ lexemes, isUnnamed lexeme = true)
    (h : lexemes.foldlM step? a = some a') :
    lexemes.foldlM step? (a.inside grouping c) = some (a'.inside grouping c) := by
  induction lexemes generalizing a with
  | nil =>
    obtain rfl := Option.some.inj h
    rfl
  | cons lexeme lexemes ih =>
    rw [List.foldlM_cons] at h
    obtain ⟨middle, hstep, h⟩ := Option.bind_eq_some_iff.1 h
    rw [foldlM_cons_of_step? (step?_inside (hlexemes lexeme List.mem_cons_self) hstep)]
    exact ih (fun other hother => hlexemes other (List.mem_cons_of_mem _ hother)) h

/-- The group around a finished lone pattern closes. -/
theorem step?_groupClosing_inside (houter : a.outer = []) :
    (a.inside grouping c).step? .groupClosing =
      some { c with
        frame := c.frame.add ⟨grouping.wrap (a.frame.body.expr.renumber c.count), a.frame.body.depth + 1⟩
        count := a.count + c.count } := by
  obtain ⟨frame, outer, count, names⟩ := a
  subst houter
  -- the frame below the lone group is the one that the pattern stands in
  have hstep : ((⟨frame, [], count, names⟩ : Assembly).inside grouping c).step? .groupClosing =
      some { c with
        frame := c.frame.add { frame.renumber c.count with grouping }.close
        count := count + c.count } := rfl
  have hbody : { frame.renumber c.count with grouping }.body = frame.body.renumber c.count :=
    Frame.body_renumber c.count frame
  rw [hstep, Frame.close, hbody]
  rfl

/-- In a group of its own a pattern without named groups becomes one item. -/
theorem foldlM_group (houter : a.outer = []) (hlexemes : ∀ lexeme ∈ lexemes, isUnnamed lexeme = true)
    (h : lexemes.foldlM step? start = some a) (hflags : c.frame.flags = .default) (grouping : Grouping) :
    (lexemes ++ [Lexeme.groupClosing]).foldlM step? (c.openGroup grouping c.frame.flags) =
      some { c with
        frame := c.frame.add ⟨grouping.wrap (a.frame.body.expr.renumber c.count), a.frame.body.depth + 1⟩
        count := a.count + c.count } := by
  rw [openGroup_eq_inside hflags, foldlM_append_of_foldlM (foldlM_inside hlexemes h),
    foldlM_cons_of_step? (step?_groupClosing_inside houter)]
  rfl

end Assembly

end PathTemplate.Regex
