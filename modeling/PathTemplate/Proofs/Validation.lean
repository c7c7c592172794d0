/-
# PathTemplate.Proofs.Validation — settings give what they describe, or their first fault.

Settings may have several faults at once: characters that clash, fragments that are no patterns, a default type that
does not exist. The fault that is reported is the first one in the order of the checks, and within a check the first
clash or the least name. Types are added to the built-in ones in the order of their names, and one that has the name of
a built-in type takes its place, so the default type may be one that only the settings define.

Going back from templates to paths needs the grammar alone. What the types are plays no role in it.
-/
import PathTemplate.Proofs.Changes

namespace PathTemplate

/-! ## Clashes -/

namespace Delimiters

/-- The roles at the two places were given the character of the clash. -/
def ClashAt (as : List (Role × Char)) (i j : Nat) (clash : Clash) : Prop :=
  i < j ∧ as[i]? = some (clash.first, clash.char) ∧ as[j]? = some (clash.second, clash.char)

/-- The clash of the first pair of roles that share a character. Pairs are ordered by their first roles, and those with
the same first role by their second ones. -/
def IsFirstClash (as : List (Role × Char)) (clash : Clash) : Prop :=
  ∃ i j, ClashAt as i j clash ∧ ∀ i' j' other, ClashAt as i' j' other → i < i' ∨ i = i' ∧ j ≤ j'

theorem ClashAt.exists_succ {as : List (Role × Char)} {i j : Nat} {clash : Clash} (h : ClashAt as i j clash) :
    ∃ k, j = k + 1 :=
  Nat.exists_eq_add_one.2 (Nat.zero_lt_of_lt h.1)

theorem clashAt_cons_zero {role : Role} {c : Char} {as : List (Role × Char)} {j : Nat} {clash : Clash} :
    ClashAt ((role, c) :: as) 0 (j + 1) clash ↔
      role = clash.first ∧ c = clash.char ∧ as[j]? = some (clash.second, clash.char) := by
  simp [ClashAt, and_assoc]

theorem clashAt_cons_succ {a : Role × Char} {as : List (Role × Char)} {i j : Nat} {clash : Clash} :
    ClashAt (a :: as) (i + 1) (j + 1) clash ↔ ClashAt as i j clash := by
  simp [ClashAt]

theorem isFirstClash_of_firstClash? {as : List (Role × Char)} {clash : Clash} (h : firstClash? as = some clash) :
    IsFirstClash as clash := by
  induction as generalizing clash with
  | nil => simp [firstClash?] at h
  | cons a rest ih =>
    obtain ⟨role, c⟩ := a
    rw [firstClash?] at h
    cases hfind : rest.find? (·.2 == c) with
    | some found =>
      -- the first role clashes, so only its clashes with earlier roles could come first
      rw [hfind] at h
      obtain rfl := Option.some.inj h
      obtain ⟨hc, j, hj, hfound, hearlier⟩ := List.find?_eq_some_iff_getElem.1 hfind
      have hchar : found.2 = c := by simpa using hc
      have hsecond : rest[j]? = some (found.1, c) := by
        rw [List.getElem?_eq_getElem hj, hfound, ← hchar]
      refine ⟨0, j + 1, clashAt_cons_zero.2 ⟨rfl, rfl, hsecond⟩, ?_⟩
      intro i' j' other hother
      obtain ⟨k, rfl⟩ := hother.exists_succ
      cases i' with
      | succ i' => exact Or.inl (Nat.succ_pos i')
      | zero =>
        obtain ⟨-, rfl, hk⟩ := clashAt_cons_zero.1 hother
        refine Or.inr ⟨rfl, ?_⟩
        by_contra hle
        have hlt : k < j := by omega
        have hnot := hearlier k hlt
        rw [List.getElem?_eq_getElem (hlt.trans hj)] at hk
        rw [Option.some.inj hk] at hnot
        simp at hnot
    | none =>
      rw [hfind] at h
      obtain ⟨i, j, hat, hfirst⟩ := ih h
      refine ⟨i + 1, j + 1, clashAt_cons_succ.2 hat, ?_⟩
      intro i' j' other hother
      obtain ⟨k, rfl⟩ := hother.exists_succ
      cases i' with
      | zero =>
        obtain ⟨-, rfl, hk⟩ := clashAt_cons_zero.1 hother
        have hnot := List.find?_eq_none.1 hfind _ (List.mem_of_getElem? hk)
        simp at hnot
      | succ i' =>
        have := hfirst i' k other (clashAt_cons_succ.1 hother)
        omega

/-- There is one first clash at the most. -/
theorem IsFirstClash.unique {as : List (Role × Char)} {clash other : Clash} (h : IsFirstClash as clash)
    (hother : IsFirstClash as other) : clash = other := by
  obtain ⟨i, j, hat, hfirst⟩ := h
  obtain ⟨i', j', hat', hfirst'⟩ := hother
  obtain ⟨rfl, rfl⟩ : i = i' ∧ j = j' := by
    have := hfirst i' j' other hat'
    have := hfirst' i j clash hat
    omega
  obtain ⟨hrole, hchar⟩ := Prod.mk.inj (Option.some.inj (hat.2.1.symm.trans hat'.2.1))
  obtain ⟨hrole', -⟩ := Prod.mk.inj (Option.some.inj (hat.2.2.symm.trans hat'.2.2))
  cases clash
  cases other
  simp_all

/-- Two roles that clash have one character. -/
theorem IsFirstClash.not_nodup {as : List (Role × Char)} {clash : Clash} (h : IsFirstClash as clash) :
    ¬ (as.map (·.2)).Nodup := by
  obtain ⟨i, j, ⟨hlt, hfirst, hsecond⟩, -⟩ := h
  intro hnodup
  have hi : (as.map (·.2))[i]? = some clash.char := by simp [hfirst]
  have hj : (as.map (·.2))[j]? = some clash.char := by simp [hsecond]
  have := (List.nodup_iff_getElem?_ne_getElem?.1 hnodup) i j hlt (List.getElem?_eq_some_iff.1 hj).1
  exact this (hi.trans hj.symm)

theorem firstClash?_eq_some_iff {as : List (Role × Char)} {clash : Clash} :
    firstClash? as = some clash ↔ IsFirstClash as clash := by
  refine ⟨isFirstClash_of_firstClash?, fun h => ?_⟩
  cases hfound : firstClash? as with
  | none => exact absurd (firstClash?_eq_none_iff.1 hfound) h.not_nodup
  | some found => rw [(isFirstClash_of_firstClash? hfound).unique h]

end Delimiters

/-! ## The parts of settings -/

theorem Grammar.ofDelimiters?_eq_ok_iff {d : Delimiters} {g : Grammar} :
    ofDelimiters? d = .ok g ↔ g.toDelimiters = d := by
  unfold ofDelimiters?
  split
  · rename_i clash h
    refine ⟨by simp, ?_⟩
    rintro rfl
    exact absurd g.distinct (Delimiters.firstClash?_eq_some_iff.1 h).not_nodup
  · constructor
    · intro heq
      obtain rfl := Except.ok.inj heq
      rfl
    · rintro rfl
      rfl

theorem Grammar.ofDelimiters?_eq_error_iff {d : Delimiters} {clash : Clash} :
    ofDelimiters? d = .error clash ↔ Delimiters.IsFirstClash d.assignments clash := by
  rw [← Delimiters.firstClash?_eq_some_iff]
  unfold ofDelimiters?
  split
  · rename_i found h
    rw [Delimiters.clash?] at h
    rw [h, Except.error.injEq, Option.some.injEq]
  · rename_i h
    rw [Delimiters.clash?] at h
    rw [h]
    simp

theorem mapError_eq_error_iff {ε δ α : Type} {x : Except ε α} {f : ε → δ} {e : δ} :
    x.mapError f = .error e ↔ ∃ fault, x = .error fault ∧ f fault = e := by
  cases x <;> simp [Except.mapError]

namespace TypeTable

/-- Of entries that are added one after another, with different names, each is found under its name. -/
theorem get?_foldl_insert {entries : List (Text × Text)} (h : (entries.map (·.1)).Nodup) (table : TypeTable)
    (name : Text) :
    (entries.foldl (fun table (name, fragment) => table.insert name fragment) table).get? name =
      (entries.lookup name).or (table.get? name) := by
  induction entries generalizing table with
  | nil => rfl
  | cons e rest ih =>
    obtain ⟨hnot, hrest⟩ := List.nodup_cons.1 h
    rw [List.foldl_cons, ih hrest, get?_insert, lookup_cons]
    by_cases heq : name = e.1
    · have hnone : rest.lookup name = none := by
        rw [List.lookup_eq_none_iff]
        intro other hother
        rw [bne_iff_ne, heq]
        intro hname
        exact hnot (List.mem_map.2 ⟨other, hother, hname.symm⟩)
      rw [if_pos heq, if_pos heq, hnone, Option.none_or, Option.some_or]
    · rw [if_neg heq, if_neg heq]

theorem nodup_names (table : TypeTable) : (table.entries.map (·.1)).Nodup := by
  refine List.pairwise_map.2 (table.ordered.imp fun {e f} hlt heq => ?_)
  rw [heq] at hlt
  exact List.lt_irrefl _ hlt

theorem isSome_lookup_iff {entries : List (Text × Text)} {name : Text} :
    (entries.lookup name).isSome = true ↔ name ∈ entries.map (·.1) := by
  induction entries with
  | nil => simp
  | cons e rest ih =>
    rw [lookup_cons, List.map_cons, List.mem_cons, ← ih]
    by_cases heq : name = e.1 <;> simp [heq]

/-- The fragment of the name is not valid, and no lesser name has a fragment that is not. -/
def IsLeastInvalid [Regex.PropertyTable] (table : TypeTable) (name : Text) : Prop :=
  (∃ fragment, (name, fragment) ∈ table.entries ∧ Regex.isValid fragment = false) ∧
    ∀ e ∈ table.entries, Regex.isValid e.2 = false → ¬ e.1 < name

/-- Entries are listed in the order of their names, so the first invalid one has the least name. -/
theorem isLeastInvalid_of_find? [Regex.PropertyTable] {table : TypeTable} {e : Text × Text}
    (h : table.entries.find? (!Regex.isValid ·.2) = some e) : table.IsLeastInvalid e.1 := by
  obtain ⟨hinvalid, front, behind, hentries, hfront⟩ := List.find?_eq_some_iff_append.1 h
  refine ⟨⟨e.2, List.mem_of_find?_eq_some h, by simpa using hinvalid⟩, fun other hother hother' => ?_⟩
  have hordered := table.ordered
  rw [hentries] at hother hordered
  rcases List.mem_append.1 hother with hother | hother
  · have := hfront other hother
    simp [hother'] at this
  · rcases List.mem_cons.1 hother with rfl | hother
    · exact List.lt_irrefl _
    · have hbehind := (List.pairwise_cons.1 (List.pairwise_append.1 hordered).2.1).1
      exact List.lt_asymm (hbehind other hother)

theorem find?_eq_some_iff [Regex.PropertyTable] {table : TypeTable} {name : Text} :
    (∃ e, table.entries.find? (!Regex.isValid ·.2) = some e ∧ e.1 = name) ↔ table.IsLeastInvalid name := by
  constructor
  · rintro ⟨e, he, rfl⟩
    exact isLeastInvalid_of_find? he
  · rintro ⟨⟨fragment, hmem, hinvalid⟩, hleast⟩
    cases hfind : table.entries.find? (!Regex.isValid ·.2) with
    | none => simpa [hinvalid] using List.find?_eq_none.1 hfind _ hmem
    | some e =>
      have hfound := isLeastInvalid_of_find? hfind
      have he : Regex.isValid e.2 = false := by simpa using List.find?_some hfind
      have hnot := hfound.2 _ hmem hinvalid
      have hnot' := hleast e (List.mem_of_find?_eq_some hfind) he
      exact ⟨e, rfl, List.le_antisymm (List.not_lt.1 hnot) (List.not_lt.1 hnot')⟩

end TypeTable

namespace Catalog

theorem get?_builtin (name : Text) : builtin.table.get? name = builtinEntries.lookup name := by
  have hnodup : (builtinEntries.map (·.1)).Nodup := by decide
  rw [builtin, TypeTable.ofList, TypeTable.get?_foldl_insert hnodup]
  exact Option.or_none

/-- Types are added up to the first one whose fragment is not valid. -/
theorem foldlM_withType? [Regex.PropertyTable] (entries : List (Text × Text)) (catalog : Catalog) :
    entries.foldlM (fun catalog (name, fragment) => catalog.withType? name fragment) catalog =
      match entries.find? (!Regex.isValid ·.2) with
      | some e => .error (.invalidTypePattern e.1)
      | none => .ok ⟨entries.foldl (fun table (name, fragment) => table.insert name fragment) catalog.table⟩ := by
  induction entries generalizing catalog with
  | nil => rfl
  | cons e rest ih =>
    rw [List.foldlM_cons, List.find?_cons, List.foldl_cons]
    cases hvalid : Regex.isValid e.2 with
    | true =>
      have hadd : catalog.withType? e.1 e.2 = .ok ⟨catalog.table.insert e.1 e.2⟩ :=
        withType?_eq_ok_iff.2 ⟨hvalid, rfl⟩
      exact (congrArg (· >>= _) hadd).trans (ih _)
    | false =>
      have hadd : catalog.withType? e.1 e.2 = .error (.invalidTypePattern e.1) := by
        rw [withType?, hvalid]
        rfl
      exact congrArg (· >>= _) hadd

end Catalog

namespace Compiler

variable {compiler next : Compiler} {name : Text}

theorem withDefaultType?_eq_ok_iff :
    compiler.withDefaultType? name = .ok next ↔
      compiler.catalog.contains name = true ∧ next = { compiler with defaultType := name } := by
  rw [withDefaultType?, bind_eq_ok_iff, Catalog.contains_eq_true_iff]
  constructor
  · rintro ⟨fragment, hfragment, hnext⟩
    exact ⟨⟨fragment, hfragment⟩, (Except.ok.inj hnext).symm⟩
  · rintro ⟨⟨fragment, hfragment⟩, rfl⟩
    exact ⟨fragment, hfragment, rfl⟩

theorem withDefaultType?_eq_error_iff {e : Error} :
    compiler.withDefaultType? name = .error e ↔
      ¬ compiler.catalog.contains name = true ∧ e = .unknownType name := by
  unfold withDefaultType? Catalog.contains TypeTable.contains Catalog.fragment?
  cases compiler.catalog.table.get? name with
  | none => simp [bind, Except.bind, eq_comm]
  | some fragment => simp [bind, Except.bind, pure, Except.pure]

end Compiler

namespace Settings

variable {s : Settings}

theorem grammar_eq_ok_iff {g : Grammar} : s.grammar = .ok g ↔ g.toDelimiters = s.delimiters := by
  rw [grammar, mapError_eq_ok_iff, Grammar.ofDelimiters?_eq_ok_iff]

theorem exists_grammar_iff : (∃ g, s.grammar = .ok g) ↔ s.delimiters.characters.Nodup := by
  simp only [grammar_eq_ok_iff]
  constructor
  · rintro ⟨g, hg⟩
    exact hg ▸ g.distinct
  · intro h
    exact ⟨⟨s.delimiters, h⟩, rfl⟩

theorem grammar_eq_error_iff {e : Error} :
    s.grammar = .error e ↔
      ∃ clash, Delimiters.IsFirstClash s.delimiters.assignments clash ∧ .invalidGrammar clash = e := by
  rw [grammar, mapError_eq_error_iff]
  simp only [Grammar.ofDelimiters?_eq_error_iff]

/-- The built-in types, and those of the settings in their place or beside them. -/
theorem catalog_eq [Regex.PropertyTable] :
    s.catalog =
      match s.types.entries.find? (!Regex.isValid ·.2) with
      | some e => .error (.invalidTypePattern e.1)
      | none => .ok ⟨s.types.entries.foldl (fun table (name, fragment) => table.insert name fragment)
          Catalog.builtin.table⟩ :=
  Catalog.foldlM_withType? s.types.entries .builtin

/-- All fragments of the settings are valid patterns. -/
def TypesValid [Regex.PropertyTable] (s : Settings) : Prop := ∀ e ∈ s.types.entries, Regex.isValid e.2 = true

/-- The settings have a type of the name, or it is built in. -/
def HasType (s : Settings) (name : Text) : Prop :=
  name ∈ s.types.names ∨ name ∈ Catalog.builtinEntries.map (·.1)

/-- The fragment of a type: that of the settings, or else the built-in one. -/
def fragment? (s : Settings) (name : Text) : Option Text :=
  (s.types.get? name).or (Catalog.builtinEntries.lookup name)

theorem hasType_iff {name : Text} : s.HasType name ↔ (s.fragment? name).isSome = true := by
  rw [fragment?, Option.isSome_or, Bool.or_eq_true, TypeTable.get?, TypeTable.isSome_lookup_iff,
    TypeTable.isSome_lookup_iff]
  rfl

theorem catalog_eq_error_iff [Regex.PropertyTable] {e : Error} :
    s.catalog = .error e ↔ ∃ name, s.types.IsLeastInvalid name ∧ .invalidTypePattern name = e := by
  simp only [catalog_eq, ← TypeTable.find?_eq_some_iff]
  cases s.types.entries.find? (!Regex.isValid ·.2) <;> simp

theorem exists_catalog_iff [Regex.PropertyTable] : (∃ catalog, s.catalog = .ok catalog) ↔ s.TypesValid := by
  have hfind : s.types.entries.find? (!Regex.isValid ·.2) = none ↔ s.TypesValid := by
    simp [TypesValid]
  rw [catalog_eq, ← hfind]
  cases s.types.entries.find? (!Regex.isValid ·.2) <;> simp

/-- The types of the settings stand before the built-in ones. -/
theorem get?_of_catalog [Regex.PropertyTable] {catalog : Catalog} (h : s.catalog = .ok catalog) (name : Text) :
    catalog.table.get? name = s.fragment? name := by
  rw [catalog_eq] at h
  split at h
  · cases h
  · obtain rfl := Except.ok.inj h
    rw [fragment?, ← Catalog.get?_builtin]
    exact TypeTable.get?_foldl_insert s.types.nodup_names Catalog.builtin.table name

theorem contains_of_catalog [Regex.PropertyTable] {catalog : Catalog} (h : s.catalog = .ok catalog) (name : Text) :
    catalog.contains name = true ↔ s.HasType name := by
  rw [hasType_iff, ← get?_of_catalog h, Catalog.contains, TypeTable.contains]

/-! ## What settings give -/

/-- The first fault of the settings, as it is reported. Types count only if no characters clash, and the default type
only if all the types are valid besides. -/
inductive FirstFault [Regex.PropertyTable] (s : Settings) : Error → Prop
  | clash {clash : Clash} (first : Delimiters.IsFirstClash s.delimiters.assignments clash) :
    FirstFault s (.invalidGrammar clash)
  | type {name : Text} (distinct : s.delimiters.characters.Nodup) (least : s.types.IsLeastInvalid name) :
    FirstFault s (.invalidTypePattern name)
  | defaultType (distinct : s.delimiters.characters.Nodup) (valid : s.TypesValid)
    (missing : ¬ s.HasType s.defaultType) : FirstFault s (.unknownType s.defaultType)

/-- What the compiler of the settings has to be. -/
structure Describes (s : Settings) (compiler : Compiler) : Prop where
  grammar : compiler.grammar.toDelimiters = s.delimiters
  defaultType : compiler.defaultType = s.defaultType
  catalog : ∀ name, compiler.catalog.fragment? name =
    match s.fragment? name with
    | some fragment => .ok fragment
    | none => .error (.unknownType name)

theorem exists_compiler_iff [Regex.PropertyTable] :
    (∃ compiler, s.compiler = .ok compiler) ↔
      s.delimiters.characters.Nodup ∧ s.TypesValid ∧ s.HasType s.defaultType := by
  simp only [compiler, bind_eq_ok_iff, Compiler.withDefaultType?_eq_ok_iff]
  constructor
  · rintro ⟨compiler, g, hg, catalog, hcatalog, hcontains, -⟩
    exact ⟨exists_grammar_iff.1 ⟨g, hg⟩, exists_catalog_iff.1 ⟨catalog, hcatalog⟩,
      (contains_of_catalog hcatalog _).1 hcontains⟩
  · rintro ⟨hdistinct, hvalid, hdefault⟩
    obtain ⟨g, hg⟩ := exists_grammar_iff.2 hdistinct
    obtain ⟨catalog, hcatalog⟩ := exists_catalog_iff.2 hvalid
    exact ⟨_, g, hg, catalog, hcatalog, (contains_of_catalog hcatalog _).2 hdefault, rfl⟩

theorem describes_of_compiler [Regex.PropertyTable] {compiler : Compiler} (h : s.compiler = .ok compiler) :
    s.Describes compiler := by
  obtain ⟨g, hg, h⟩ := bind_eq_ok_iff.1 h
  obtain ⟨catalog, hcatalog, h⟩ := bind_eq_ok_iff.1 h
  obtain ⟨-, rfl⟩ := Compiler.withDefaultType?_eq_ok_iff.1 h
  refine ⟨grammar_eq_ok_iff.1 hg, rfl, fun name => ?_⟩
  rw [← get?_of_catalog hcatalog]
  rfl

theorem compiler_eq_error_iff [Regex.PropertyTable] {e : Error} : s.compiler = .error e ↔ s.FirstFault e := by
  simp only [compiler, bind_eq_error_iff, Compiler.withDefaultType?_eq_error_iff]
  constructor
  · rintro (hg | ⟨g, hg, hcatalog | ⟨catalog, hcatalog, hmissing, rfl⟩⟩)
    · obtain ⟨clash, hfirst, rfl⟩ := grammar_eq_error_iff.1 hg
      exact .clash hfirst
    · obtain ⟨name, hleast, rfl⟩ := catalog_eq_error_iff.1 hcatalog
      exact .type (exists_grammar_iff.1 ⟨g, hg⟩) hleast
    · exact .defaultType (exists_grammar_iff.1 ⟨g, hg⟩) (exists_catalog_iff.1 ⟨catalog, hcatalog⟩)
        (mt (contains_of_catalog hcatalog _).2 hmissing)
  · rintro (hfirst | ⟨hdistinct, hleast⟩ | ⟨hdistinct, hvalid, hmissing⟩)
    · exact Or.inl (grammar_eq_error_iff.2 ⟨_, hfirst, rfl⟩)
    · obtain ⟨g, hg⟩ := exists_grammar_iff.2 hdistinct
      exact Or.inr ⟨g, hg, Or.inl (catalog_eq_error_iff.2 ⟨_, hleast, rfl⟩)⟩
    · obtain ⟨g, hg⟩ := exists_grammar_iff.2 hdistinct
      obtain ⟨catalog, hcatalog⟩ := exists_catalog_iff.2 hvalid
      exact Or.inr ⟨g, hg, Or.inr ⟨catalog, hcatalog, mt (contains_of_catalog hcatalog _).1 hmissing, rfl⟩⟩

/-- Settings give exactly the compiler they describe, if they are in order, and otherwise their first fault. The grammar
for going back to paths is the same one, and depends on the characters alone. -/
theorem compiler_or_firstFault [Regex.PropertyTable] (s : Settings) :
    ((∃ compiler, s.compiler = .ok compiler) ↔
      s.delimiters.characters.Nodup ∧ s.TypesValid ∧ s.HasType s.defaultType) ∧
    (∀ compiler, s.compiler = .ok compiler → s.Describes compiler ∧ s.grammar = .ok compiler.grammar) ∧
    (∀ e, s.compiler = .error e ↔ s.FirstFault e) ∧
    ((∃ g, s.grammar = .ok g) ↔ s.delimiters.characters.Nodup) ∧
    (∀ g, s.grammar = .ok g ↔ g.toDelimiters = s.delimiters) := by
  refine ⟨exists_compiler_iff, fun compiler h => ?_, fun e => compiler_eq_error_iff, exists_grammar_iff,
    fun g => grammar_eq_ok_iff⟩
  have hdescribes := describes_of_compiler h
  exact ⟨hdescribes, grammar_eq_ok_iff.2 hdescribes.grammar⟩

/-- The default type is one that only the settings define, and a built-in type is replaced. -/
theorem compiler_or_firstFault_replacing :
    let s : Settings := { standard with
      defaultType := "slug".toList
      types := .ofList [("word".toList, "[a-z]+".toList), ("slug".toList, "[a-z-]+".toList)] }
    ∃ compiler, s.compiler = .ok compiler ∧ s.Describes compiler ∧
      compiler.catalog.fragment? "slug".toList = .ok "[a-z-]+".toList ∧
      compiler.catalog.fragment? "word".toList = .ok "[a-z]+".toList ∧
      compiler.catalog.fragment? "any".toList = .ok ".+".toList := by
  intro s
  have hvalid : s.TypesValid := by
    unfold TypesValid
    decide +kernel
  obtain ⟨hexists, hdescribes, -⟩ := compiler_or_firstFault s
  obtain ⟨compiler, h⟩ := hexists.2 ⟨by decide, hvalid, Or.inl (by decide)⟩
  have hcatalog := (hdescribes compiler h).1.catalog
  exact ⟨compiler, h, (hdescribes compiler h).1, hcatalog _, hcatalog _, hcatalog _⟩

/-- The default type is missing too, but two fragments are no patterns, and the one of the lesser name is reported. -/
example : Settings.compiler { standard with
      defaultType := "c".toList
      types := .ofList [("b".toList, "(".toList), ("a".toList, "*".toList)] } =
    .error (.invalidTypePattern "a".toList) := by
  decide +kernel

end Settings

end PathTemplate
