/-
# PathTemplate.Proofs.Regex.Marks — reading captures off the marks of a match.

A match leaves two marks for each named group that it goes through, the latest first. The groups of different names
that are gone through once each can be told from the marks: `Records` says which texts they took, in the order in
which the match went through them, and the text of a group is then what is looked up there.
-/
import Mathlib.Data.List.Basic
import PathTemplate.Proofs.Regex.Ways
import PathTemplate.Regex.Match

namespace PathTemplate.Regex

/-! ## Expressions without named groups -/

/-- Does the expression have no named groups? -/
def isUnmarked : Regex → Bool
  | seq first second => first.isUnmarked && second.isUnmarked
  | alt first second => first.isUnmarked && second.isUnmarked
  | repeated body _ _ _ => body.isUnmarked
  | numbered _ body => body.isUnmarked
  | named _ _ => false
  | _ => true

namespace Ways

variable {V W : Ways} {before taken after : Text} {marks : List Mark}

/-- The ways leave no marks. -/
def Unmarked (W : Ways) : Prop := ∀ before taken after marks, W before taken after marks → marks = []

namespace Unmarked

theorem andThen (hV : V.Unmarked) (hW : W.Unmarked) : (V.andThen W).Unmarked := by
  rintro before taken after marks ⟨u, v, m, n, rfl, rfl, hu, hv⟩
  rw [hV _ _ _ _ hu, hW _ _ _ _ hv, List.append_nil]

theorem either (hV : V.Unmarked) (hW : W.Unmarked) : (V.either W).Unmarked := by
  rintro before taken after marks (h | h)
  · exact hV _ _ _ _ h
  · exact hW _ _ _ _ h

theorem power (hW : W.Unmarked) (n : Nat) : (W.power n).Unmarked := by
  induction n with
  | zero => exact fun _ _ _ _ h => h.2
  | succ n ih => exact hW.andThen ih

end Unmarked

/-- A group without groups inside it leaves a mark where it is entered and one where it is left. -/
theorem marks_of_group (hW : W.Unmarked) {name : Text} (h : group name W before taken after marks) :
    W before taken after [] ∧ marks = [.left name (before ++ taken).length, .entered name before.length] := by
  obtain ⟨_, _, _, _, rfl, rfl, ⟨rfl, rfl⟩, value, _, m, _, rfl, rfl, hvalue, rfl, rfl⟩ := h
  obtain rfl := hW _ _ _ _ hvalue
  rw [List.append_nil] at hvalue ⊢
  exact ⟨hvalue, by simp⟩

end Ways

theorem unmarked_of_isUnmarked {r : Regex} (h : r.isUnmarked = true) : r.ways.Unmarked := by
  induction r with
  | empty => exact fun _ _ _ _ h => h.2
  | literal t => exact fun _ _ _ _ h => h.2
  | set s => exact fun _ _ _ _ h => h.2
  | anchor a => exact fun _ _ _ _ h => h.2.1
  | seq first second ihFirst ihSecond =>
    obtain ⟨hfirst, hsecond⟩ := (Bool.and_eq_true _ _).mp h
    exact (ihFirst hfirst).andThen (ihSecond hsecond)
  | alt first second ihFirst ihSecond =>
    obtain ⟨hfirst, hsecond⟩ := (Bool.and_eq_true _ _).mp h
    exact (ihFirst hfirst).either (ihSecond hsecond)
  | repeated body least most greedy ih =>
    rintro before taken after marks ⟨n, _, hpower⟩
    exact (ih h).power n _ _ _ _ hpower
  | numbered number body ih => exact ih h
  | named name body _ => simp [isUnmarked] at h

/-! ## Captures -/

/-- The marks are those of groups that took the texts of the captures, the latest first. Each name comes with the
text that its group took. -/
inductive Records (text : Text) : List Mark → List (Text × Text) → Prop
  | nil : Records text [] []
  | group {name before value after : Text} {marks : List Mark} {captures : List (Text × Text)} :
      text = before ++ value ++ after → Records text marks captures →
      Records text (marks ++ [.left name (before ++ value).length, .entered name before.length])
        ((name, value) :: captures)

namespace Records

variable {text : Text} {marks later : List Mark} {captures further : List (Text × Text)} {name : Text}

theorem append (h : Records text marks captures) (hlater : Records text later further) :
    Records text (later ++ marks) (captures ++ further) := by
  induction h with
  | nil =>
    rw [List.append_nil]
    exact hlater
  | group htext _ ih =>
    rw [← List.append_assoc]
    exact .group htext ih

theorem lastEntered?_append_group (marks : List Mark) (group : Text) (start stop : Nat) :
    lastEntered? (marks ++ [.left group stop, .entered group start]) name =
      (lastEntered? marks name).or (if group = name then some start else none) := by
  by_cases h : group = name <;> simp [lastEntered?, h]

theorem lastLeft?_append_group (marks : List Mark) (group : Text) (start stop : Nat) :
    lastLeft? (marks ++ [.left group stop, .entered group start]) name =
      (lastLeft? marks name).or (if group = name then some stop else none) := by
  by_cases h : group = name <;> simp [lastLeft?, h]

/-- A name without a capture has no marks. -/
theorem lastEntered?_eq_none (h : Records text marks captures) (hname : name ∉ captures.map (·.1)) :
    lastEntered? marks name = none ∧ lastLeft? marks name = none := by
  induction h with
  | nil => exact ⟨rfl, rfl⟩
  | group htext _ ih =>
    rw [List.map_cons, List.mem_cons, not_or] at hname
    obtain ⟨hentered, hleft⟩ := ih hname.2
    rw [lastEntered?_append_group, lastLeft?_append_group, hentered, hleft, if_neg (Ne.symm hname.1),
      if_neg (Ne.symm hname.1)]
    exact ⟨rfl, rfl⟩

/-- The text of a group is its capture. -/
theorem groupText?_eq_lookup (h : Records text marks captures) (hnodup : (captures.map (·.1)).Nodup) (name : Text) :
    groupText? text marks name = captures.lookup name := by
  induction h with
  | nil => rfl
  | @group other before value after marks captures htext hrest ih =>
    rw [List.map_cons, List.nodup_cons] at hnodup
    rw [List.lookup_cons, groupText?, lastEntered?_append_group, lastLeft?_append_group]
    by_cases hname : other = name
    · subst hname
      obtain ⟨hentered, hleft⟩ := hrest.lastEntered?_eq_none hnodup.1
      have htake : ((text.drop before.length).take ((before ++ value).length - before.length)) = value := by
        rw [htext, List.append_assoc, List.drop_left, List.length_append, Nat.add_sub_cancel_left, List.take_left]
      rw [hentered, hleft, if_pos rfl, if_pos rfl, beq_self_eq_true]
      exact congrArg some htake
    · rw [if_neg hname, if_neg hname, Option.or_none, Option.or_none, beq_false_of_ne (Ne.symm hname)]
      exact ih hnodup.2

end Records

/-! ## Looking up names -/

theorem lookup_eq_none_of_not_mem {captures : List (Text × Text)} {name : Text}
    (hname : name ∉ captures.map (·.1)) : captures.lookup name = none := by
  rw [List.lookup_eq_none_iff]
  intro capture hcapture
  refine bne_iff_ne.2 ?_
  rintro rfl
  exact hname (List.mem_map_of_mem hcapture)

theorem lookup_cons_of_ne {captures : List (Text × Text)} {name other value : Text} (hname : name ≠ other) :
    ((other, value) :: captures).lookup name = captures.lookup name := by
  rw [List.lookup_cons, beq_false_of_ne hname]

/-- To look up all names where only some of them have captures gives back the captures. -/
theorem filterMap_lookup {names : List Text} {captures : List (Text × Text)}
    (hsublist : (captures.map (·.1)).Sublist names) (hnodup : names.Nodup) :
    (names.filterMap fun name => (captures.lookup name).map fun value => (name, value)) = captures := by
  induction names generalizing captures with
  | nil =>
    obtain rfl : captures = [] := by simpa using hsublist
    rfl
  | cons name names ih =>
    obtain ⟨hname, hdistinct⟩ := List.nodup_cons.1 hnodup
    rcases List.sublist_cons_iff.1 hsublist with hsublist | ⟨others, heq, hsublist⟩
    · have hnone := lookup_eq_none_of_not_mem fun h => hname (hsublist.subset h)
      rw [List.filterMap_cons_none (by rw [hnone]; rfl), ih hsublist hdistinct]
    · cases captures with
      | nil => simp at heq
      | cons capture captures =>
        obtain ⟨other, value⟩ := capture
        rw [List.map_cons] at heq
        obtain ⟨rfl, rfl⟩ := List.cons.inj heq
        -- the further names are not the one at the front, so they are looked up behind it
        have hrest : (names.filterMap fun n => (((other, value) :: captures).lookup n).map fun v => (n, v)) =
            names.filterMap fun n => (captures.lookup n).map fun v => (n, v) := by
          refine List.filterMap_congr fun n hn => ?_
          rw [lookup_cons_of_ne (ne_of_mem_of_not_mem hn hname)]
        rw [List.filterMap_cons_some (b := (other, value)) (by rw [List.lookup_cons, beq_self_eq_true]; rfl), hrest,
          ih hsublist hdistinct]

end PathTemplate.Regex
