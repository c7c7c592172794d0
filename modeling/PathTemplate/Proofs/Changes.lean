/-
# PathTemplate.Proofs.Changes — a compiler stays in order, however it is changed.

The default type and the catalog of a compiler are changed by different operations: one checks that the catalog has
the type, one goes back to the built-in default without looking, and one may replace any fragment. Still the catalog
always holds the default type, because it always holds the built-in types. One change keeps this, and so does any
run of changes, with the compiler left as it was wherever a change fails.

So a type that a compiler does not know was never its default type: it is written in the template.
-/
import PathTemplate.Proofs.Occurrence
import PathTemplate.Proofs.Recognition
import PathTemplate.Session

namespace PathTemplate

theorem mapError_eq_ok_iff {ε δ α : Type} {x : Except ε α} {f : ε → δ} {a : α} :
    x.mapError f = .ok a ↔ x = .ok a := by
  cases x <;> simp [Except.mapError]

/-! ## Tables and catalogs -/

theorem TypeTable.lookup_cons (name fragment other : Text) (entries : List (Text × Text)) :
    ((name, fragment) :: entries).lookup other = if other = name then some fragment else entries.lookup other := by
  rw [List.lookup_cons]
  by_cases h : other = name
  · simp [h]
  · rw [if_neg h, beq_eq_false_iff_ne.2 h]

theorem TypeTable.lookup_insertEntry (name fragment other : Text) (entries : List (Text × Text)) :
    (insertEntry name fragment entries).lookup other =
      if other = name then some fragment else entries.lookup other := by
  induction entries with
  | nil => rw [insertEntry, lookup_cons]
  | cons e entries ih =>
    obtain ⟨n, f⟩ := e
    rw [insertEntry]
    split
    · rw [lookup_cons]
    · split
      · rename_i heq
        rw [lookup_cons, lookup_cons, heq]
        split <;> rfl
      · rename_i hne
        rw [lookup_cons, lookup_cons, ih]
        by_cases h : other = n
        · rw [if_pos h, if_pos h, if_neg (fun heq => hne (heq.symm.trans h))]
        · rw [if_neg h, if_neg h]

theorem TypeTable.get?_insert (table : TypeTable) (name fragment other : Text) :
    (table.insert name fragment).get? other = if other = name then some fragment else table.get? other :=
  lookup_insertEntry name fragment other table.entries

theorem TypeTable.contains_insert {table : TypeTable} {other : Text} (h : table.contains other = true)
    (name fragment : Text) : (table.insert name fragment).contains other = true := by
  rw [contains, get?_insert]
  split
  · rfl
  · exact h

namespace Catalog

variable {catalog next : Catalog}

theorem contains_eq_true_iff {name : Text} :
    catalog.contains name = true ↔ ∃ fragment, catalog.fragment? name = .ok fragment := by
  unfold contains TypeTable.contains fragment?
  cases catalog.table.get? name <;> simp

/-- The catalog holds the built-in types, perhaps with other fragments, and all its fragments are valid patterns. -/
structure IsSound [Regex.PropertyTable] (catalog : Catalog) : Prop where
  builtin : ∀ e ∈ builtinEntries, catalog.contains e.1 = true
  valid : ∀ e ∈ catalog.table.entries, Regex.isValid e.2 = true

variable [Regex.PropertyTable]

theorem isSound_builtin : builtin.IsSound where
  builtin := by decide
  valid e he := (builtin_entries e he).2.1

theorem IsSound.withType? (h : catalog.IsSound) {name fragment : Text}
    (hadd : catalog.withType? name fragment = .ok next) : next.IsSound := by
  obtain ⟨hvalid, rfl⟩ := withType?_eq_ok_iff.1 hadd
  refine ⟨fun e he => ?_, fun e he => ?_⟩
  · exact TypeTable.contains_insert (h.builtin e he) name fragment
  · rcases TypeTable.mem_insertEntry he with rfl | he
    · exact hvalid
    · exact h.valid e he

theorem isSound_of_foldlM {entries : List (Text × Text)} (h : catalog.IsSound)
    (hadd : entries.foldlM (fun catalog (name, fragment) => catalog.withType? name fragment) catalog = .ok next) :
    next.IsSound := by
  induction entries generalizing catalog with
  | nil =>
    obtain rfl := Except.ok.inj hadd
    exact h
  | cons e entries ih =>
    rw [List.foldlM_cons] at hadd
    obtain ⟨middle, hmiddle, hadd⟩ := bind_eq_ok_iff.1 hadd
    exact ih (h.withType? hmiddle) hadd

end Catalog

namespace Compiler

variable {compiler next : Compiler}

/-! ## Compilers in order -/

section

variable [Regex.PropertyTable]

/-- The catalog is sound and holds the default type, and the five characters of the grammar are distinct. -/
structure IsSound (compiler : Compiler) : Prop where
  defaultType : compiler.catalog.contains compiler.defaultType = true
  catalog : compiler.catalog.IsSound
  distinct : compiler.grammar.characters.Nodup

/-- The built-in default type is there, because the built-in types are. -/
theorem isSound_ofCatalog {catalog : Catalog} (h : catalog.IsSound) (grammar : Grammar) :
    (ofCatalog grammar catalog).IsSound where
  defaultType := h.builtin ("chunk".toList, "[^/.]+".toList) (by decide)
  catalog := h
  distinct := grammar.distinct

theorem IsSound.withDefaultType? (h : compiler.IsSound) {name : Text}
    (hname : compiler.withDefaultType? name = .ok next) : next.IsSound := by
  obtain ⟨fragment, hfragment, hnext⟩ := bind_eq_ok_iff.1 hname
  obtain rfl := Except.ok.inj hnext
  exact { h with defaultType := Catalog.contains_eq_true_iff.2 ⟨fragment, hfragment⟩ }

theorem isSound_of_settings {settings : Settings} (h : settings.compiler = .ok compiler) : compiler.IsSound := by
  obtain ⟨grammar, -, h⟩ := bind_eq_ok_iff.1 h
  obtain ⟨catalog, hcatalog, h⟩ := bind_eq_ok_iff.1 h
  exact (isSound_ofCatalog (Catalog.isSound_of_foldlM Catalog.isSound_builtin hcatalog) grammar).withDefaultType? h

/-! ## Changes -/

/-- A change to a compiler. -/
inductive Change
  | setDefaultType (name : Text)
  /-- Rebuild the compiler with one type more. Its default type is the built-in one then. -/
  | addType (name fragment : Text)
  /-- Take the compiler of some settings instead. -/
  | configure (settings : Settings)

/-- The compiler after a change, if the change succeeds. -/
def change? (compiler : Compiler) : Change → Except Error Compiler
  | .setDefaultType name => compiler.withDefaultType? name
  | .addType name fragment => Session.extendedCompiler compiler name fragment
  | .configure settings => settings.compiler

/-- The compiler after a change; it stays as it is if the change fails. -/
def after (compiler : Compiler) (change : Change) : Compiler := Session.orKeep (compiler.change? change) compiler

/-- The compiler after changes, one after another. -/
def run (compiler : Compiler) (changes : List Change) : Compiler := changes.foldl after compiler

theorem IsSound.change? (h : compiler.IsSound) {change : Change} (hchange : compiler.change? change = .ok next) :
    next.IsSound := by
  cases change with
  | setDefaultType name => exact h.withDefaultType? hchange
  | addType name fragment =>
    obtain ⟨catalog, hcatalog, hnext⟩ := bind_eq_ok_iff.1 hchange
    obtain rfl := Except.ok.inj hnext
    exact isSound_ofCatalog (h.catalog.withType? hcatalog) _
  | configure settings => exact isSound_of_settings hchange

theorem IsSound.after (h : compiler.IsSound) (change : Change) : (compiler.after change).IsSound := by
  unfold Compiler.after
  cases hchange : compiler.change? change with
  | ok next => exact h.change? hchange
  | error e => exact h

theorem IsSound.run (h : compiler.IsSound) (changes : List Change) : (compiler.run changes).IsSound := by
  induction changes generalizing compiler with
  | nil => exact h
  | cons change changes ih => exact ih (h.after change)

/-- A command changes the compiler of a session as a change does, or leaves it alone. -/
theorem exists_after_of_run? {s s' : Session} {c : Command} {reply : Reply} (h : s.run? c = .ok (reply, s')) :
    s'.compiler = s.compiler ∨ ∃ change, s'.compiler = s.compiler.after change := by
  cases c with
  | configure document =>
    obtain ⟨settings, -, h⟩ := bind_eq_ok_iff.1 h
    obtain ⟨-, rfl⟩ := Prod.mk.inj (Except.ok.inj h)
    exact Or.inr ⟨.configure settings, rfl⟩
  | setDefaultType name =>
    obtain ⟨next, hnext, h⟩ := bind_eq_ok_iff.1 h
    obtain ⟨-, rfl⟩ := Prod.mk.inj (Except.ok.inj h)
    refine Or.inr ⟨.setDefaultType name, ?_⟩
    rw [Compiler.after, change?, mapError_eq_ok_iff.1 hnext]
    rfl
  | addType name fragment =>
    obtain ⟨next, hnext, h⟩ := bind_eq_ok_iff.1 h
    obtain ⟨-, rfl⟩ := Prod.mk.inj (Except.ok.inj h)
    refine Or.inr ⟨.addType name fragment, ?_⟩
    rw [Compiler.after, change?, mapError_eq_ok_iff.1 hnext]
    rfl
  | parse tree template =>
    obtain ⟨_, -, h⟩ := bind_eq_ok_iff.1 h
    obtain ⟨-, rfl⟩ := Prod.mk.inj (Except.ok.inj h)
    exact Or.inl rfl
  | same tree other =>
    obtain ⟨_, -, h⟩ := bind_eq_ok_iff.1 h
    obtain ⟨_, -, h⟩ := bind_eq_ok_iff.1 h
    obtain ⟨-, rfl⟩ := Prod.mk.inj (Except.ok.inj h)
    exact Or.inl rfl
  | compileTree tree pattern =>
    obtain ⟨_, -, h⟩ := bind_eq_ok_iff.1 h
    obtain ⟨_, -, h⟩ := bind_eq_ok_iff.1 h
    obtain ⟨-, rfl⟩ := Prod.mk.inj (Except.ok.inj h)
    exact Or.inl rfl
  | prepare pattern =>
    obtain ⟨_, -, h⟩ := bind_eq_ok_iff.1 h
    obtain ⟨_, -, h⟩ := bind_eq_ok_iff.1 h
    obtain ⟨-, rfl⟩ := Prod.mk.inj (Except.ok.inj h)
    exact Or.inl rfl
  | reverseTree tree values =>
    obtain ⟨_, -, h⟩ := bind_eq_ok_iff.1 h
    obtain ⟨_, -, h⟩ := bind_eq_ok_iff.1 h
    obtain ⟨-, rfl⟩ := Prod.mk.inj (Except.ok.inj h)
    exact Or.inl rfl
  | compile _ _ | matchPath _ _ | reverse _ _ | prune _ _ =>
    obtain ⟨_, -, h⟩ := bind_eq_ok_iff.1 h
    obtain ⟨-, rfl⟩ := Prod.mk.inj (Except.ok.inj h)
    exact Or.inl rfl

/-- A session keeps its compiler in order. -/
theorem IsSound.session {s : Session} (h : s.compiler.IsSound) (c : Command) : (s.step c).2.compiler.IsSound := by
  unfold Session.step
  cases hrun : s.run? c with
  | error refusal => exact h
  | ok result =>
    rcases exists_after_of_run? hrun with heq | ⟨change, heq⟩
    · exact heq ▸ h
    · exact heq ▸ h.after change

/-! ## Types that are not known -/

theorem typeName_of_fragment? (h : compiler.IsSound) {token : Token} {name : Text}
    (hfragment : compiler.fragment? token = .error (.unknownType name)) : token.typeName = some name := by
  unfold Compiler.fragment? at hfragment
  cases htype : token.typeName with
  | none =>
    rw [htype, Option.getD_none] at hfragment
    obtain ⟨fragment, hdefault⟩ := Catalog.contains_eq_true_iff.1 h.defaultType
    exact nomatch hfragment.symm.trans hdefault
  | some other =>
    rw [htype, Option.getD_some, Catalog.fragment?] at hfragment
    split at hfragment
    · simp at hfragment
    · obtain rfl := Error.unknownType.inj (Except.error.inj hfragment)
      rfl

theorem exists_token_of_pattern? (h : compiler.IsSound) {s : Sequence} {name : Text}
    (hpattern : compiler.pattern? s = .error (.unknownType name)) :
    ∃ token ∈ s.tokens, token.typeName = some name := by
  induction s with
  | nil => simp [pattern?] at hpattern
  | literal t rest ih =>
    rcases bind_eq_error_iff.1 hpattern with hrest | ⟨p, -, hp⟩
    · exact ih hrest
    · cases hp
  | parameter token rest ih =>
    have hlater (hrest : compiler.pattern? rest = .error (.unknownType name)) :
        ∃ other ∈ (rest.parameter token).tokens, other.typeName = some name := by
      obtain ⟨other, hother, htype⟩ := ih hrest
      exact ⟨other, List.mem_cons_of_mem _ hother, htype⟩
    rw [pattern?] at hpattern
    split at hpattern
    · rcases bind_eq_error_iff.1 hpattern with hfragment | ⟨fragment, -, hpattern⟩
      · exact ⟨token, List.mem_cons_self, typeName_of_fragment? h hfragment⟩
      · rcases bind_eq_error_iff.1 hpattern with hrest | ⟨p, -, hp⟩
        · exact hlater hrest
        · cases hp
    · rcases bind_eq_error_iff.1 hpattern with hrest | ⟨p, -, hp⟩
      · exact hlater hrest
      · cases hp
  | optional body rest ihBody ihRest =>
    rcases bind_eq_error_iff.1 hpattern with hbody | ⟨inner, -, hpattern⟩
    · obtain ⟨token, htoken, htype⟩ := ihBody hbody
      exact ⟨token, List.mem_append_left _ htoken, htype⟩
    · rcases bind_eq_error_iff.1 hpattern with hrest | ⟨p, -, hp⟩
      · obtain ⟨token, htoken, htype⟩ := ihRest hrest
        exact ⟨token, List.mem_append_right _ htoken, htype⟩
      · cases hp

end

/-- Every token of the tree stands in the source. -/
theorem exists_hasToken_of_mem_tokens {g : Grammar} {source : Text} {template : Template}
    (hparse : Template.parse? g source = .ok template) {token : Token} (htoken : token ∈ template.segments.tokens) :
    ∃ place content, g.HasToken source place content ∧ token.IsReadFrom g.parameter g.separator content := by
  have hread := Grammar.forall₂_of_parse? hparse
  rw [← Template.parameters_eq_tokens] at htoken
  obtain ⟨i, hi, rfl⟩ := List.mem_iff_getElem.1 htoken
  have hi' : i < (g.tokensFrom 0 source).length := hread.length_eq ▸ hi
  exact ⟨_, _, Grammar.mem_tokensFrom_zero_iff.1 (List.getElem_mem hi'),
    Grammar.readToken?_eq_ok_iff.1 (hread.get hi' hi)⟩

/-- A type that is reported as unknown is written in a token of the template. -/
theorem exists_hasToken_of_compile [Regex.PropertyTable] (h : compiler.IsSound) {source name : Text}
    (hcompile : compiler.compile source = .error (.unknownType name)) :
    ∃ place parameter, compiler.grammar.separator ∉ parameter ∧ compiler.grammar.separator ∉ name ∧
      compiler.grammar.HasToken source place (parameter ++ compiler.grammar.separator :: name) := by
  rcases bind_eq_error_iff.1 hcompile with hparse | ⟨template, hparse, hpattern⟩
  · -- what can be wrong in reading is a token, not a type
    obtain ⟨place, content, fault, -, -, -, heq⟩ := Grammar.parse?_eq_error_iff_leftmost.1 hparse
    exact nomatch heq
  · obtain ⟨token, htoken, htype⟩ := exists_token_of_pattern? h hpattern
    obtain ⟨place, content, hplace, hread⟩ := exists_hasToken_of_mem_tokens hparse htoken
    rcases hread.content with ⟨-, hnone⟩ | ⟨typeName, hmem, rfl, hsome⟩
    · exact nomatch htype.symm.trans hnone
    · by_cases hne : typeName = []
      · rw [if_pos hne] at hsome
        exact nomatch htype.symm.trans hsome
      · rw [if_neg hne] at hsome
        obtain rfl := Option.some.inj (htype.symm.trans hsome)
        exact ⟨place, token.name, hread.name, hmem, hplace⟩

/-! ## Runs -/

/-- Whatever changes are made to the standard compiler or to that of some settings, the default type and all built-in
types stay in the catalog, its fragments stay valid, and the characters of the grammar stay distinct. A type that is
reported as unknown is written in a token of the template. -/
theorem isSound_of_run [Regex.PropertyTable] (start : Compiler) (changes : List Change)
    (hstart : start = .standard ∨ ∃ settings : Settings, settings.compiler = .ok start) :
    (start.run changes).IsSound ∧
      ∀ source name, (start.run changes).compile source = .error (.unknownType name) →
        ∃ place parameter, (start.run changes).grammar.separator ∉ parameter ∧
          (start.run changes).grammar.separator ∉ name ∧
          (start.run changes).grammar.HasToken source place
            (parameter ++ (start.run changes).grammar.separator :: name) := by
  have hsound : start.IsSound := by
    rcases hstart with rfl | ⟨settings, hsettings⟩
    · exact isSound_ofCatalog Catalog.isSound_builtin _
    · exact isSound_of_settings hsettings
  exact ⟨hsound.run changes, fun _ _ => exists_hasToken_of_compile (hsound.run changes)⟩

/-- The standard compiler gets a type of its own and takes it as the default type; a type that is no pattern and a
default type that does not exist change nothing after that. The type that is missing is written in the template. -/
theorem isSound_of_run_failing :
    let c := standard.run [.addType "hex".toList "[0-9a-f]+".toList, .setDefaultType "hex".toList,
      .addType "bad".toList "(".toList, .setDefaultType "uuid".toList]
    c.defaultType = "hex".toList ∧ c.IsSound ∧
      c.compile "/{a}/{b:uuid}".toList = .error (.unknownType "uuid".toList) ∧
      ∃ place parameter, ':' ∉ parameter ∧ ':' ∉ "uuid".toList ∧
        Grammar.standard.HasToken "/{a}/{b:uuid}".toList place (parameter ++ ':' :: "uuid".toList) := by
  let changes : List Change := [.addType "hex".toList "[0-9a-f]+".toList, .setDefaultType "hex".toList,
    .addType "bad".toList "(".toList, .setDefaultType "uuid".toList]
  have hgrammar : (standard.run changes).grammar = .standard := by decide +kernel
  have hcompile : (standard.run changes).compile "/{a}/{b:uuid}".toList = .error (.unknownType "uuid".toList) := by
    decide +kernel
  obtain ⟨hsound, hwritten⟩ := isSound_of_run standard changes (Or.inl rfl)
  rw [hgrammar] at hwritten
  exact ⟨by decide +kernel, hsound, hcompile, hwritten _ _ hcompile⟩

end Compiler

end PathTemplate
