/-
# PathTemplate.Proofs.Regex.Normal — what bringing expressions into normal form leaves as it is.

A sequence in normal form matches as its parts do one after another. The numbers of groups serve only to tell
groups apart: every function on normal forms asks at most whether two expressions are equal, so raising all
numbers by the same amount before or after it comes to the same. Nor does any of these functions put in an
anchor that was not there before. A choice between one expression, lastly, is that expression.

The numbers are what changes about an expression when its pattern becomes a part of a larger one.
-/
import PathTemplate.Proofs.Regex.Plan
import PathTemplate.Regex.Normal

namespace PathTemplate.Regex

/-! ## Sequences match as their parts -/

theorem waysAll_items (r : Regex) : waysAll r.items = r.ways := by
  induction r with
  | empty => rfl
  | seq first second ihFirst ihSecond => rw [items, waysAll_append, ihFirst, ihSecond, ways]
  | _ => rw [items, waysAll_cons, waysAll_nil, Ways.andThen_nothing] <;> simp

theorem waysAll_flatMap_items (rs : List Regex) : waysAll (rs.flatMap items) = waysAll rs := by
  induction rs with
  | nil => rfl
  | cons r rs ih => rw [List.flatMap_cons, waysAll_append, waysAll_items, ih, waysAll_cons]

theorem waysAll_joinLiterals (rs : List Regex) : waysAll (joinLiterals rs) = waysAll rs := by
  fun_induction joinLiterals rs with
  | case1 => rfl
  | case2 rs s t rest heq ih =>
    rw [heq, waysAll_cons, ways] at ih
    rw [waysAll_cons, waysAll_cons, ways, ways, ← Ways.text_andThen_text, Ways.andThen_assoc, ih]
  | case3 r rs _ ih => rw [waysAll_cons, waysAll_cons, ih]

theorem ways_seqAll (rs : List Regex) : (seqAll rs).ways = waysAll rs := by
  fun_induction seqAll rs with
  | case1 => rfl
  | case2 r => rw [waysAll_cons, waysAll_nil, Ways.andThen_nothing]
  | case3 r rest _ ih => rw [ways, waysAll_cons, ih]

theorem ways_sequence (rs : List Regex) : (sequence rs).ways = waysAll rs := by
  rw [sequence, ways_seqAll, waysAll_joinLiterals, waysAll_flatMap_items]

/-! ## Raising the numbers of groups -/

/-- The expression with all numbers of groups raised by the same amount. -/
def renumber (n : Nat) : Regex → Regex
  | empty => empty
  | literal t => literal t
  | set s => set s
  | anchor a => anchor a
  | seq first second => seq (first.renumber n) (second.renumber n)
  | alt first second => alt (first.renumber n) (second.renumber n)
  | repeated body least most greedy => repeated (body.renumber n) least most greedy
  | numbered number body => numbered (number + n) (body.renumber n)
  | named name body => named name (body.renumber n)

/-- Numbers have nothing to do with what is matched. -/
@[simp] theorem ways_renumber (n : Nat) (r : Regex) : (r.renumber n).ways = r.ways := by
  induction r with
  | empty => rfl
  | literal t => rfl
  | set s => rfl
  | anchor a => rfl
  | seq first second ihFirst ihSecond => rw [renumber, ways, ways, ihFirst, ihSecond]
  | alt first second ihFirst ihSecond => rw [renumber, ways, ways, ihFirst, ihSecond]
  | repeated body least most greedy ih => rw [renumber, ways, ways, ih]
  | numbered number body ih => rw [renumber, ways, ways, ih]
  | named name body ih => rw [renumber, ways, ways, ih]

theorem renumber_inj {n : Nat} {r r' : Regex} : r.renumber n = r'.renumber n ↔ r = r' := by
  induction r generalizing r' <;> cases r' <;> simp [renumber, *]

variable (n : Nat)

/-! ### Sequences -/

theorem items_renumber (r : Regex) : (r.renumber n).items = r.items.map (renumber n) := by
  induction r with
  | seq first second ihFirst ihSecond => rw [renumber, items, items, ihFirst, ihSecond, List.map_append]
  | _ => rfl

theorem joinLiterals_renumber (rs : List Regex) :
    joinLiterals (rs.map (renumber n)) = (joinLiterals rs).map (renumber n) := by
  induction rs with
  | nil => rfl
  | cons r rs ih =>
    simp only [List.map_cons, joinLiterals, ih]
    -- whether two literals meet does not depend on numbers
    cases joinLiterals rs with
    | nil => cases r <;> rfl
    | cons head tail => cases r <;> cases head <;> rfl

theorem seqAll_renumber (rs : List Regex) : seqAll (rs.map (renumber n)) = (seqAll rs).renumber n := by
  fun_induction seqAll rs with
  | case1 => rfl
  | case2 r => rfl
  | case3 r rest hrest ih =>
    rw [renumber, ← ih]
    cases rest with
    | nil => exact absurd rfl hrest
    | cons _ _ => rfl

theorem altAll_renumber (rs : List Regex) : altAll (rs.map (renumber n)) = (altAll rs).renumber n := by
  fun_induction altAll rs with
  | case1 => rfl
  | case2 r => rfl
  | case3 r rest hrest ih =>
    rw [renumber, ← ih]
    cases rest with
    | nil => exact absurd rfl hrest
    | cons _ _ => rfl

theorem flatMap_items_renumber (rs : List Regex) :
    (rs.map (renumber n)).flatMap items = (rs.flatMap items).map (renumber n) := by
  rw [List.flatMap_map, List.map_flatMap]
  simp only [items_renumber]

theorem sequence_renumber (rs : List Regex) :
    sequence (rs.map (renumber n)) = (sequence rs).renumber n := by
  rw [sequence, flatMap_items_renumber, joinLiterals_renumber, seqAll_renumber, sequence]

/-! ### Choices -/

theorem branches_renumber (r : Regex) : (r.renumber n).branches = r.branches.map (renumber n) := by
  induction r with
  | alt first second ihFirst ihSecond =>
    rw [renumber, branches, branches, ihFirst, ihSecond, List.map_append]
  | _ => rfl

theorem flatMap_branches_renumber (rs : List Regex) :
    (rs.map (renumber n)).flatMap branches = (rs.flatMap branches).map (renumber n) := by
  rw [List.flatMap_map, List.map_flatMap]
  simp only [branches_renumber]

@[simp] theorem character?_renumber (r : Regex) : (r.renumber n).character? = r.character? := by
  cases r <;> rfl

@[simp] theorem set?_renumber (r : Regex) : (r.renumber n).set? = r.set? := by
  cases r <;> rfl

theorem mergedSet?_renumber (rs : List Regex) : mergedSet? (rs.map (renumber n)) = mergedSet? rs := by
  have hcharacter : (fun r => character? (renumber n r)) = character? := funext (character?_renumber n)
  have hset : (fun r => set? (renumber n r)) = set? := funext (set?_renumber n)
  simp only [mergedSet?, List.mapM_map, Function.comp_def, hcharacter, hset]

@[simp] theorem ofSet_renumber (s : CharSet) : (ofSet s).renumber n = ofSet s := by
  unfold ofSet
  split <;> rfl

theorem oneOf_renumber (rs : List Regex) : oneOf (rs.map (renumber n)) = (oneOf rs).renumber n := by
  simp only [oneOf, flatMap_branches_renumber, mergedSet?_renumber]
  split
  · rw [ofSet_renumber]
  · rw [altAll_renumber]

theorem commonItems_renumber (rs rs' : List Regex) :
    commonItems (rs.map (renumber n)) (rs'.map (renumber n)) = (commonItems rs rs').map (renumber n) := by
  induction rs generalizing rs' with
  | nil => rfl
  | cons r rs ih =>
    cases rs' with
    | nil => rfl
    | cons r' rs' =>
      simp only [List.map_cons, commonItems, renumber_inj, ih]
      split <;> rfl

theorem sharedItems_renumber (rs : List Regex) :
    sharedItems (rs.map (renumber n)) = (sharedItems rs).map (renumber n) := by
  have hitems : (rs.map (renumber n)).map items = (rs.map items).map (List.map (renumber n)) := by
    simp only [List.map_map, Function.comp_def, items_renumber]
  -- what is shared is found by comparing items, and `renumber_inj` keeps equal and unequal apart
  have hfold (first : List Regex) (rest : List (List Regex)) :
      (rest.map (List.map (renumber n))).foldl commonItems (first.map (renumber n)) =
        (rest.foldl commonItems first).map (renumber n) := by
    induction rest generalizing first with
    | nil => rfl
    | cons next rest ih => rw [List.map_cons, List.foldl_cons, commonItems_renumber, ih, List.foldl_cons]
  rw [sharedItems, hitems, sharedItems]
  match rs.map items with
  | [] => rfl
  | [_] => rfl
  | first :: second :: rest =>
    have hall : ((first :: second :: rest).map (List.map (renumber n))).all (2 ≤ ·.length) =
        (first :: second :: rest).all (2 ≤ ·.length) := by
      rw [List.all_map]
      congr 1
      funext rs
      simp
    simp only [List.map_cons] at hall ⊢
    rw [hall]
    split
    · exact hfold first (second :: rest)
    · rfl

theorem choice_renumber (rs : List Regex) : choice (rs.map (renumber n)) = (choice rs).renumber n := by
  have hrest (rs : List Regex) (k : Nat) :
      (rs.map (renumber n)).map (fun r => seqAll (r.items.drop k)) =
        (rs.map fun r => seqAll (r.items.drop k)).map (renumber n) := by
    simp only [List.map_map, Function.comp_def, items_renumber, ← List.map_drop, seqAll_renumber]
  simp only [choice, flatMap_branches_renumber, sharedItems_renumber, List.isEmpty_map, List.length_map, hrest,
    oneOf_renumber]
  split
  · rfl
  · rw [← List.map_singleton, ← List.map_append, sequence_renumber]

/-! ### Repetition -/

@[simp] theorem takesNone_renumber (r : Regex) : (r.renumber n).takesNone = r.takesNone := by
  induction r with
  | seq first second ihFirst ihSecond => rw [renumber, takesNone, takesNone, ihFirst, ihSecond]
  | alt first second ihFirst ihSecond => rw [renumber, takesNone, takesNone, ihFirst, ihSecond]
  | repeated body least most greedy ih => rw [renumber, takesNone, takesNone, ih]
  | numbered number body ih => rw [renumber, takesNone, takesNone, ih]
  | named name body ih => rw [renumber, takesNone, takesNone, ih]
  | _ => rfl

theorem repetition_renumber (r : Regex) (least : Nat) (most : Option Nat) (greedy : Bool) :
    repetition (r.renumber n) least most greedy = (repetition r least most greedy).renumber n := by
  unfold repetition
  rw [bounds, bounds, takesNone_renumber]
  split <;> rfl

/-! ## Expressions without anchors -/

/-- Does the expression hold no anchor? -/
def anchorFree : Regex → Bool
  | empty => true
  | literal _ => true
  | set _ => true
  | anchor _ => false
  | seq first second => first.anchorFree && second.anchorFree
  | alt first second => first.anchorFree && second.anchorFree
  | repeated body _ _ _ => body.anchorFree
  | numbered _ body => body.anchorFree
  | named _ body => body.anchorFree

theorem anchorFree_items (r : Regex) : r.items.all anchorFree = r.anchorFree := by
  induction r with
  | seq first second ihFirst ihSecond => rw [items, List.all_append, ihFirst, ihSecond, anchorFree]
  | _ => simp [items, anchorFree]

theorem anchorFree_branches (r : Regex) : r.branches.all anchorFree = r.anchorFree := by
  induction r with
  | alt first second ihFirst ihSecond => rw [branches, List.all_append, ihFirst, ihSecond, anchorFree]
  | _ => simp [branches, anchorFree]

theorem anchorFree_joinLiterals (rs : List Regex) :
    (joinLiterals rs).all anchorFree = rs.all anchorFree := by
  fun_induction joinLiterals rs with
  | case1 => rfl
  | case2 rs s t rest heq ih =>
    rw [heq, List.all_cons] at ih
    rw [List.all_cons, List.all_cons, ← ih]
    rfl
  | case3 r rs _ ih => rw [List.all_cons, List.all_cons, ih]

theorem anchorFree_seqAll (rs : List Regex) : (seqAll rs).anchorFree = rs.all anchorFree := by
  fun_induction seqAll rs with
  | case1 => rfl
  | case2 r => rw [List.all_cons, List.all_nil, Bool.and_true]
  | case3 r rest _ ih => rw [anchorFree, ih, List.all_cons]

theorem anchorFree_altAll (rs : List Regex) : (altAll rs).anchorFree = rs.all anchorFree := by
  fun_induction altAll rs with
  | case1 => rfl
  | case2 r => rw [List.all_cons, List.all_nil, Bool.and_true]
  | case3 r rest _ ih => rw [anchorFree, ih, List.all_cons]

theorem anchorFree_sequence (rs : List Regex) : (sequence rs).anchorFree = rs.all anchorFree := by
  rw [sequence, anchorFree_seqAll, anchorFree_joinLiterals, List.all_flatMap]
  simp only [anchorFree_items]

theorem anchorFree_ofSet (s : CharSet) : (ofSet s).anchorFree = true := by
  unfold ofSet
  split <;> rfl

theorem anchorFree_flatMap_branches (rs : List Regex) :
    (rs.flatMap branches).all anchorFree = rs.all anchorFree := by
  rw [List.all_flatMap]
  simp only [anchorFree_branches]

theorem anchorFree_oneOf {rs : List Regex} (h : rs.all anchorFree = true) : (oneOf rs).anchorFree = true := by
  simp only [oneOf]
  split
  · exact anchorFree_ofSet _
  · rw [anchorFree_altAll, anchorFree_flatMap_branches, h]

theorem mem_of_mem_commonItems {r : Regex} {rs rs' : List Regex} (h : r ∈ commonItems rs rs') : r ∈ rs := by
  induction rs generalizing rs' with
  | nil => simp [commonItems] at h
  | cons head rs ih =>
    cases rs' with
    | nil => simp [commonItems] at h
    | cons head' rs' =>
      rw [commonItems] at h
      split at h
      · rcases List.mem_cons.1 h with rfl | h
        · exact List.mem_cons_self
        · exact List.mem_cons_of_mem _ (ih h)
      · simp at h

/-- What alternatives share are items of the first of them. -/
theorem mem_items_of_mem_sharedItems {r : Regex} {rs : List Regex} (h : r ∈ sharedItems rs) :
    ∃ first ∈ rs, r ∈ first.items := by
  have hfold {first : List Regex} {rest : List (List Regex)} (h : r ∈ rest.foldl commonItems first) :
      r ∈ first := by
    induction rest generalizing first with
    | nil => exact h
    | cons next rest ih => exact mem_of_mem_commonItems (ih h)
  match rs with
  | [] => simp [sharedItems] at h
  | [_] => simp [sharedItems] at h
  | first :: second :: rest =>
    simp only [sharedItems, List.map_cons] at h
    split at h
    · exact ⟨first, List.mem_cons_self, hfold h⟩
    · simp at h

theorem anchorFree_choice {rs : List Regex} (h : rs.all anchorFree = true) :
    (choice rs).anchorFree = true := by
  have hbranches : (rs.flatMap branches).all anchorFree = true := by
    rw [anchorFree_flatMap_branches, h]
  have hitems : ∀ r ∈ rs.flatMap branches, ∀ item ∈ r.items, item.anchorFree = true := by
    intro r hr
    rw [← List.all_eq_true, anchorFree_items]
    exact List.all_eq_true.1 hbranches r hr
  simp only [choice]
  split
  · exact anchorFree_oneOf hbranches
  · -- the shared items stand in front of a choice between what remains of each alternative
    rw [anchorFree_sequence, List.all_append, Bool.and_eq_true, List.all_eq_true]
    constructor
    · intro item hitem
      obtain ⟨r, hr, hitem⟩ := mem_items_of_mem_sharedItems hitem
      exact hitems r hr item hitem
    · rw [List.all_cons, List.all_nil, Bool.and_true]
      apply anchorFree_oneOf
      rw [List.all_map, List.all_eq_true]
      intro r hr
      rw [Function.comp_apply, anchorFree_seqAll, List.all_eq_true]
      intro item hitem
      exact hitems r hr item (List.mem_of_mem_drop hitem)

theorem anchorFree_repetition {r : Regex} (h : r.anchorFree = true) (least : Nat) (most : Option Nat)
    (greedy : Bool) : (repetition r least most greedy).anchorFree = true := by
  unfold repetition
  split
  · rfl
  · exact h
  · exact h

/-! ## A choice between one -/

/-- Is the expression one that sequences and choices never take apart? -/
def isAtom : Regex → Bool
  | literal _ => true
  | anchor _ => true
  | repeated .. => true
  | named .. => true
  | _ => false

theorem isAtom_joinLiterals {rs : List Regex} (h : ∀ r ∈ rs, r.isAtom = true) :
    ∀ r ∈ joinLiterals rs, r.isAtom = true := by
  fun_induction joinLiterals rs with
  | case1 => simp
  | case2 rs s t rest heq ih =>
    intro r hr
    rcases List.mem_cons.1 hr with rfl | hr
    · rfl
    · exact ih (fun r hr => h r (List.mem_cons_of_mem _ hr)) r (heq ▸ List.mem_cons_of_mem _ hr)
  | case3 r rs _ ih =>
    intro r' hr'
    rcases List.mem_cons.1 hr' with rfl | hr'
    · exact h _ List.mem_cons_self
    · exact ih (fun r hr => h r (List.mem_cons_of_mem _ hr)) r' hr'

theorem flatMap_items_of_isAtom {rs : List Regex} (h : ∀ r ∈ rs, r.isAtom = true) : rs.flatMap items = rs := by
  induction rs with
  | nil => rfl
  | cons r rs ih =>
    have hr : r.items = [r] := by
      have hatom := h r List.mem_cons_self
      cases r <;> first | rfl | simp [isAtom] at hatom
    rw [List.flatMap_cons, hr, ih fun r hr => h r (List.mem_cons_of_mem _ hr), List.singleton_append]

theorem ofSet_unions_single (c : Char) : ofSet (CharSet.unions [.single c]) = literal [c] := by
  have hchanges : (CharSet.unions [.single c]).changes = [c.toNat, c.toNat + 1] := by
    simp [CharSet.unions, CharSet.union, CharSet.combine, CharSet.empty, CharSet.single, CharSet.merge,
      CharSet.consChange]
  rw [ofSet, CharSet.single?, hchanges]
  simp

/-- The one alternative is the choice, if it is neither a choice itself nor a set. -/
theorem choice_singleton {r : Regex} (hbranches : r.branches = [r]) (hset : r.set? = none) :
    choice [r] = r := by
  have honeOf : oneOf [r] = r := by
    -- a single character goes through a set of one and comes back as the literal it was
    cases hcharacter : r.character? with
    | none => simp [oneOf, mergedSet?, hbranches, hset, hcharacter, altAll]
    | some s =>
      unfold character? at hcharacter
      split at hcharacter
      · rename_i c
        obtain rfl := Option.some.inj hcharacter
        simp [oneOf, mergedSet?, branches, character?, ofSet_unions_single]
      · simp at hcharacter
  simp [choice, hbranches, sharedItems, honeOf]

theorem choice_sequence_of_isAtom {rs : List Regex} (h : ∀ r ∈ rs, r.isAtom = true) :
    choice [sequence rs] = sequence rs := by
  have hatoms := isAtom_joinLiterals h
  rw [sequence, flatMap_items_of_isAtom h]
  match joinLiterals rs, hatoms with
  | [], _ => exact choice_singleton rfl rfl
  | [r], hatoms =>
    have hr := hatoms r List.mem_cons_self
    apply choice_singleton
    · cases r <;> first | rfl | simp [isAtom] at hr
    · cases r <;> first | rfl | simp [isAtom] at hr
  | _ :: _ :: _, _ => exact choice_singleton rfl rfl

end PathTemplate.Regex
