/-
# PathTemplate.TypeTable — fragments of patterns by the names of types.

A table lists each name once, in ascending order of code points, so that two tables with the same entries are
equal and a walk through a table has a definite order. The order is part of the type.
-/
import PathTemplate.Text

namespace PathTemplate

/-- Fragments by name. -/
structure TypeTable where
  entries : List (Text × Text)
  ordered : entries.Pairwise (·.1 < ·.1)
deriving DecidableEq

namespace TypeTable

/-- No entries. -/
def empty : TypeTable := ⟨[], .nil⟩

/-- The entries with one more, in its place; it replaces one of the same name. -/
def insertEntry (name fragment : Text) : List (Text × Text) → List (Text × Text)
  | [] => [(name, fragment)]
  | (n, f) :: rest =>
    if name < n then (name, fragment) :: (n, f) :: rest
    else if name = n then (name, fragment) :: rest
    else (n, f) :: insertEntry name fragment rest

theorem mem_insertEntry {name fragment : Text} {entries : List (Text × Text)} {e : Text × Text}
    (h : e ∈ insertEntry name fragment entries) : e = (name, fragment) ∨ e ∈ entries := by
  induction entries with
  | nil => simpa [insertEntry] using h
  | cons head rest ih =>
    obtain ⟨n, f⟩ := head
    simp only [insertEntry] at h
    split at h
    · simpa using h
    · split at h
      · rcases List.mem_cons.1 h with h | h
        · exact Or.inl h
        · exact Or.inr (List.mem_cons_of_mem _ h)
      · rcases List.mem_cons.1 h with h | h
        · exact Or.inr (h ▸ List.mem_cons_self)
        · rcases ih h with h | h
          · exact Or.inl h
          · exact Or.inr (List.mem_cons_of_mem _ h)

theorem pairwise_insertEntry {name fragment : Text} {entries : List (Text × Text)}
    (h : entries.Pairwise (·.1 < ·.1)) :
    (insertEntry name fragment entries).Pairwise (·.1 < ·.1) := by
  induction entries with
  | nil => simp [insertEntry]
  | cons head rest ih =>
    obtain ⟨n, f⟩ := head
    have hhead := (List.pairwise_cons.1 h).1
    have hrest := (List.pairwise_cons.1 h).2
    simp only [insertEntry]
    split
    · rename_i hlt
      refine List.pairwise_cons.2 ⟨fun e he => ?_, h⟩
      rcases List.mem_cons.1 he with rfl | he
      · exact hlt
      · exact List.lt_trans hlt (hhead e he)
    · rename_i hnlt
      split
      · rename_i heq
        exact List.pairwise_cons.2 ⟨fun e he => heq ▸ hhead e he, hrest⟩
      · rename_i hne
        refine List.pairwise_cons.2 ⟨fun e he => ?_, ih hrest⟩
        rcases mem_insertEntry he with rfl | he
        · rcases List.le_iff_lt_or_eq.1 (List.not_lt.1 hnlt) with hlt | heq
          · exact hlt
          · exact absurd heq.symm hne
        · exact hhead e he

/-- The table with one entry more; it replaces one of the same name. -/
def insert (table : TypeTable) (name fragment : Text) : TypeTable :=
  ⟨insertEntry name fragment table.entries, pairwise_insertEntry table.ordered⟩

/-- The table of a list of entries, of which the last of a name counts. -/
def ofList (entries : List (Text × Text)) : TypeTable :=
  entries.foldl (fun table (name, fragment) => table.insert name fragment) empty

/-- The fragment of a name. -/
def get? (table : TypeTable) (name : Text) : Option Text := table.entries.lookup name

/-- Does the table have an entry of the name? -/
def contains (table : TypeTable) (name : Text) : Bool := (table.get? name).isSome

/-- The names in order. -/
def names (table : TypeTable) : List Text := table.entries.map (·.1)

/-- The number of entries. -/
def size (table : TypeTable) : Nat := table.entries.length

end TypeTable

end PathTemplate
