/-
# PathTemplate.Proofs.Regex.Naming — the groups of a pattern have different names.

A group opens under a name only if no group before it has had the name. So one lexeme leaves the names of all groups
different, and the names at the end of a run are those of the opening lexemes, each once. Where two of them are equal
there is no run, and the pattern is not valid.
-/
import Mathlib.Data.List.Nodup
import PathTemplate.Proofs.Regex.Grouping

namespace PathTemplate.Regex

/-- The name of the group that the lexeme opens, if it opens one under a name. -/
def Lexeme.groupName? : Lexeme → Option Text
  | groupOpening (.named name) => some name
  | _ => none

/-- The names of the groups that the lexemes open, in order. -/
def groupNames (lexemes : List Lexeme) : List Text := lexemes.filterMap Lexeme.groupName?

@[simp] theorem groupNames_append (ls ms : List Lexeme) : groupNames (ls ++ ms) = groupNames ls ++ groupNames ms :=
  List.filterMap_append

theorem groupNames_cons (lexeme : Lexeme) (lexemes : List Lexeme) :
    groupNames (lexeme :: lexemes) = lexeme.groupName?.toList ++ groupNames lexemes := by
  rw [groupNames, List.filterMap_cons]
  cases lexeme.groupName? <;> rfl

theorem groupNames_chars (t : Text) : groupNames (t.map .char) = [] := by
  simp [groupNames, Lexeme.groupName?]

theorem Lexeme.groupName?_eq_some_iff {lexeme : Lexeme} {name : Text} :
    lexeme.groupName? = some name ↔ lexeme = .groupOpening (.named name) := by
  constructor
  · intro h
    unfold groupName? at h
    split at h
    · rw [Option.some.inj h]
    · cases h
  · rintro rfl
    rfl

theorem Lexeme.groupName?_of_isUnnamed {lexeme : Lexeme} (h : Assembly.isUnnamed lexeme = true) :
    lexeme.groupName? = none := by
  refine Option.eq_none_iff_forall_ne_some.2 fun name hname => ?_
  rw [groupName?_eq_some_iff.1 hname] at h
  cases h

theorem groupNames_of_isUnnamed {lexemes : List Lexeme} (h : ∀ lexeme ∈ lexemes, Assembly.isUnnamed lexeme = true) :
    groupNames lexemes = [] :=
  List.filterMap_eq_nil_iff.2 fun lexeme hlexeme => Lexeme.groupName?_of_isUnnamed (h lexeme hlexeme)

namespace Assembly

variable [PropertyTable] {a a' : Assembly} {lexeme : Lexeme} {lexemes : List Lexeme}

/-- A lexeme adds the name of the group that it opens. -/
theorem names_of_step? (h : a.step? lexeme = some a') : a'.names = lexeme.groupName?.toList ++ a.names := by
  have hset {s : SizedSet} (h : a.addSet? s = some a') : a'.names = a.names := by
    rw [addSet?] at h
    split at h
    · exact Option.some.inj h ▸ rfl
    · cases h
  cases lexeme with
  | byte _ | dot | shorthand _ _ => exact hset h
  | property _ _ | bracketed _ =>
    obtain ⟨s, -, h⟩ := Option.bind_eq_some_iff.1 h
    exact hset h
  | repetition least most greedy =>
    obtain ⟨frame, -, h⟩ := Option.bind_eq_some_iff.1 h
    exact Option.some.inj h ▸ rfl
  | groupOpening kind =>
    cases kind with
    | named name =>
      rw [step?] at h
      split at h
      · cases h
      · exact Option.some.inj h ▸ rfl
    | _ => exact Option.some.inj h ▸ rfl
  | groupClosing =>
    rw [step?] at h
    split at h
    · cases h
    · exact Option.some.inj h ▸ rfl
  | _ => exact Option.some.inj h ▸ rfl

/-- A group opens under a name only if no group before it has had the name. -/
theorem not_mem_names_of_step? {name : Text} (hname : lexeme.groupName? = some name)
    (h : a.step? lexeme = some a') : name ∉ a.names := by
  rw [Lexeme.groupName?_eq_some_iff.1 hname, step?] at h
  split at h
  · cases h
  · assumption

theorem nodup_names_of_step? (hnodup : a.names.Nodup) (h : a.step? lexeme = some a') : a'.names.Nodup := by
  rw [names_of_step? h]
  cases hname : lexeme.groupName? with
  | none => exact hnodup
  | some name => exact List.nodup_cons.2 ⟨not_mem_names_of_step? hname h, hnodup⟩

/-- A run adds the names of the groups that it opens, the last first, and they stay different. -/
theorem names_of_foldlM (hnodup : a.names.Nodup) (h : lexemes.foldlM step? a = some a') :
    a'.names = (groupNames lexemes).reverse ++ a.names ∧ a'.names.Nodup := by
  induction lexemes generalizing a with
  | nil =>
    obtain rfl := Option.some.inj h
    exact ⟨rfl, hnodup⟩
  | cons lexeme lexemes ih =>
    rw [List.foldlM_cons] at h
    obtain ⟨middle, hstep, h⟩ := Option.bind_eq_some_iff.1 h
    obtain ⟨hnames, hrun⟩ := ih (nodup_names_of_step? hnodup hstep) h
    refine ⟨?_, hrun⟩
    rw [hnames, names_of_step? hstep, groupNames_cons, List.reverse_append, List.append_assoc]
    cases lexeme.groupName? <;> rfl

end Assembly

/-- A valid pattern opens no two groups under one name. -/
theorem nodup_groupNames_of_isValid [PropertyTable] {pattern : Text} {lexemes : List Lexeme}
    (hlexemes : lexemes? ⟨false, []⟩ pattern = some lexemes) (h : isValid pattern = true) :
    (groupNames lexemes).Nodup := by
  obtain ⟨r, hparse⟩ := Option.isSome_iff_exists.1 h
  obtain ⟨a, hassemble, -⟩ := parse?_eq_some_iff.1 hparse
  rw [assemble?, hlexemes] at hassemble
  obtain ⟨hnames, hnodup⟩ := Assembly.names_of_foldlM List.nodup_nil hassemble
  rw [hnames] at hnodup
  exact List.nodup_reverse.1 (List.nodup_append.1 hnodup).1

end PathTemplate.Regex
