/-
# PathTemplate.Proofs.Documents — settings come back from the documents they are written to.

A document lists every field with its value, so nothing of it depends on the standard settings. Each value is read
back from its written form: a character, a pair of characters, a text, and a table, whose entries are written in
their order and added in that order again. The settings need not make sense: characters may clash, and fragments
and the default type may be any text.
-/
import PathTemplate.Proofs.Json
import PathTemplate.Settings.Document

namespace PathTemplate

open Reader Json

/-! ## Tables -/

namespace TypeTable

/-- An entry whose name is beyond all others goes to the end. -/
theorem insertEntry_of_forall_lt {name fragment : Text} {entries : List (Text × Text)}
    (h : ∀ e ∈ entries, e.1 < name) : insertEntry name fragment entries = entries ++ [(name, fragment)] := by
  induction entries with
  | nil => rfl
  | cons e entries ih =>
    have hlt : e.1 < name := h e List.mem_cons_self
    have hne : name ≠ e.1 := by
      rintro rfl
      exact List.lt_irrefl _ hlt
    rw [insertEntry, if_neg (List.lt_asymm hlt), if_neg hne,
      ih fun other hother => h other (List.mem_cons_of_mem _ hother), List.cons_append]

theorem entries_foldl_insert {table : TypeTable} {rest : List (Text × Text)}
    (h : (table.entries ++ rest).Pairwise (·.1 < ·.1)) :
    (rest.foldl (fun table (name, fragment) => table.insert name fragment) table).entries = table.entries ++ rest := by
  induction rest generalizing table with
  | nil => simp
  | cons e rest ih =>
    have hlt : ∀ other ∈ table.entries, other.1 < e.1 := fun other hother =>
      (List.pairwise_append.1 h).2.2 other hother e List.mem_cons_self
    have hinsert : (table.insert e.1 e.2).entries = table.entries ++ [e] := insertEntry_of_forall_lt hlt
    rw [List.append_cons, ← hinsert] at h ⊢
    exact ih h

/-- The entries of a table make up the table. -/
theorem ofList_entries (table : TypeTable) : ofList table.entries = table := by
  have hentries : (ofList table.entries).entries = table.entries := entries_foldl_insert table.ordered
  cases table
  cases h : ofList _
  simp_all

end TypeTable

namespace Settings

/-! ## Values -/

theorem takes_readCharacter (c : Char) : readCharacter.Takes (quoted [c]) c := by
  intro u
  rw [readCharacter, result_bind_of_result (takes_string [c] u)]
  rfl

theorem takes_readBrackets (b : Brackets) : readBrackets.Takes (writeBrackets b) b := by
  intro u
  have htext : writeBrackets b ++ u =
      '[' :: (quoted [b.opening] ++ ',' :: (quoted [b.closing] ++ ']' :: u)) := by
    simp [writeBrackets, commaSeparated, List.intercalate]
  rw [htext, readBrackets, result_bind_of_result (result_sign_cons (by decide) _),
    result_bind_of_result (takes_readCharacter _ _), result_bind_of_result (result_sign_cons (by decide) _),
    result_bind_of_result (takes_readCharacter _ _), result_bind_of_result (result_sign_cons (by decide) _)]
  rfl

theorem takes_readEntry (e : Text × Text) : readEntry.Takes (writeField e.1 (quoted e.2)) e := by
  intro u
  have htext : writeField e.1 (quoted e.2) ++ u = quoted e.1 ++ ':' :: (quoted e.2 ++ u) := by
    simp [writeField]
  rw [htext, readEntry, result_bind_of_result (takes_string _ _),
    result_bind_of_result (result_sign_cons (by decide) _), result_bind_of_result (takes_string _ _)]
  rfl

theorem takes_readTable (table : TypeTable) : readTable.Takes (writeTable table) table := by
  intro u
  have hentries : (bracketed '{' '}' readEntry).result (writeTable table ++ u) =
      some (table.entries.map fun e => e, u) :=
    takes_object (fun e _ => takes_readEntry e) (fun _ _ => rfl) u
  rw [List.map_id'] at hentries
  rw [readTable, result_bind_of_result hentries, TypeTable.ofList_entries, result_pure]

/-! ## Fields -/

/-- The setting of a field. -/
def setting (s : Settings) : Setting.Field → Setting
  | .optionBounds => .optionBounds s.delimiters.option
  | .parameterBounds => .parameterBounds s.delimiters.parameter
  | .separator => .separator s.delimiters.separator
  | .defaultType => .defaultType s.defaultType
  | .types => .types s.types

variable (s : Settings)

theorem takes_readValue (f : Setting.Field) : (readValue f).Takes (s.writeValue f) (s.setting f) := by
  intro u
  cases f with
  | optionBounds => exact result_bind_of_result (takes_readBrackets _ u)
  | parameterBounds => exact result_bind_of_result (takes_readBrackets _ u)
  | separator => exact result_bind_of_result (takes_readCharacter _ u)
  | defaultType => exact result_bind_of_result (takes_string _ u)
  | types => exact result_bind_of_result (takes_readTable _ u)

/-- No two fields have the same name. -/
theorem find?_name (f : Setting.Field) : Setting.Field.all.find? (·.name == f.name) = some f := by
  cases f <;> decide

theorem takes_readField (f : Setting.Field) : readField.Takes (writeField f.name (s.writeValue f)) (s.setting f) := by
  intro u
  have htext : writeField f.name (s.writeValue f) ++ u = quoted f.name ++ ':' :: (s.writeValue f ++ u) := by
    simp [writeField]
  rw [htext, readField, result_bind_of_result (takes_string _ _),
    result_bind_of_result (result_sign_cons (by decide) _), find?_name,
    result_bind_of_result (result_ofOption_some _ _)]
  exact takes_readValue s f u

/-! ## Documents -/

theorem result_readDocument_toDocument :
    readDocument.result s.toDocument = some (Setting.Field.all.map s.setting, []) := by
  have hblanks : blanks.result s.toDocument = some ((), s.toDocument) := result_blanks_cons (by decide) _
  have hpeek : peek.result s.toDocument = some (some '{', s.toDocument) := rfl
  have hfields : (bracketed '{' '}' readField).result s.toDocument =
      some (Setting.Field.all.map s.setting, []) := by
    have htext : s.toDocument ++ [] = s.toDocument := List.append_nil _
    rw [← htext]
    exact takes_object (fun f _ => takes_readField s f) (fun _ _ => rfl) []
  have hnodup : ((Setting.Field.all.map s.setting).map Setting.field).Nodup := by
    show Setting.Field.all.Nodup
    decide
  rw [readDocument, result_bind_of_result hblanks, result_bind_of_result hpeek, if_pos rfl,
    result_bind_of_result hfields, result_bind, result_guard, if_pos hnodup]
  rfl

/-- The settings of all fields leave nothing of the settings that were there before. -/
theorem foldl_apply_setting (t : Settings) : (Setting.Field.all.map s.setting).foldl Setting.apply t = s := rfl

/-- Settings are read back from their document, whatever they are. -/
theorem ofDocument?_toDocument : ofDocument? s.toDocument = .ok s := by
  obtain ⟨⟨settings, rest⟩, hread, heq⟩ := Option.map_eq_some_iff.1 (result_readDocument_toDocument s)
  obtain ⟨rfl, hrest⟩ := Prod.mk.inj heq
  rw [ofDocument?, hread]
  simp only [hrest, List.all_nil, if_true, foldl_apply_setting]

end Settings

end PathTemplate
