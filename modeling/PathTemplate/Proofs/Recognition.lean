/-
# PathTemplate.Proofs.Recognition — the language of a template.

A template stands for a language of paths: a literal text for itself, a parameter for what its fragment matches in
full when taken alone, an optional segment for nothing or for what is in it. This is defined on the tree, with no
pattern in sight. If the fragments are plain, the matcher of a compiled template recognises exactly the paths of
the language: no literal text, fragment or bracket makes a difference to what stands next to it.

Catalogs are looked at through the way in which they came about.
-/
import Mathlib.Control.Monad.Basic
import PathTemplate.Proofs.Compilation
import PathTemplate.Proofs.Regex.Properties
import PathTemplate.Regex.StandardProperties

namespace PathTemplate

open Regex

/-! ## Languages of trees -/

/-- The texts that the fragment for a parameter matches in full. -/
def Compiler.fragmentLanguage [PropertyTable] (compiler : Compiler) (token : Token) : Language Char :=
  {text | ∃ fragment, compiler.fragment? token = .ok fragment ∧ MatchesInFull fragment text}

/-- The texts that a parameter stands for: only an identifier makes it more than the text it was written as. -/
def Compiler.parameterLanguage [PropertyTable] (compiler : Compiler) (token : Token) : Language Char :=
  if token.isIdentifier then compiler.fragmentLanguage token else {token.raw}

/-- The texts that a sequence stands for. -/
def Sequence.language [PropertyTable] (compiler : Compiler) : Sequence → Language Char
  | nil => 1
  | literal t rest => {t} * rest.language compiler
  | parameter token rest => compiler.parameterLanguage token * rest.language compiler
  | optional body rest => (body.language compiler + 1) * rest.language compiler

namespace Compiler

variable [PropertyTable] {compiler : Compiler} {depth : Nat}

/-- A parameter whose fragment is a repeated set stands for each character of the set. -/
theorem mem_parameterLanguage_of_repeated_set {token : Token} {fragment : Text} {s : CharSet} {greedy : Bool}
    (hidentifier : token.isIdentifier = true) (hfragment : compiler.fragment? token = .ok fragment)
    (hparse : parse? fragment = some (.repeated (.set s) 1 none greedy)) {c : Char} (hc : s.contains c = true) :
    [c] ∈ compiler.parameterLanguage token := by
  rw [parameterLanguage, if_pos hidentifier]
  exact ⟨fragment, hfragment, matchesInFull_of_repeated_set hparse hc⟩

theorem denotes_parameterWays (hplain : compiler.IsPlain depth) (token : Token) :
    (compiler.parameterWays token).Denotes (compiler.parameterLanguage token) := by
  by_cases hidentifier : token.isIdentifier = true
  · rw [parameterWays, parameterLanguage, if_pos hidentifier, if_pos hidentifier]
    apply Ways.Denotes.group
    intro before taken after
    constructor
    · rintro ⟨marks, fragment, hfragment, r, hparse, hways⟩
      obtain ⟨hplainFragment, _, _⟩ := hplain token fragment hfragment
      exact ⟨fragment, hfragment, (denotes_of_isPlain hplainFragment hparse before taken after).1 ⟨marks, hways⟩⟩
    · rintro ⟨fragment, hfragment, r, marks, hparse, hways⟩
      obtain ⟨hplainFragment, _, _⟩ := hplain token fragment hfragment
      obtain ⟨marks, hways⟩ := (denotes_of_isPlain hplainFragment hparse before taken after).2 ⟨r, marks, hparse, hways⟩
      exact ⟨marks, fragment, hfragment, r, hparse, hways⟩
  · rw [parameterWays, parameterLanguage, if_neg hidentifier, if_neg hidentifier]
    exact .text token.raw

/-- With plain fragments the ways of a sequence denote its language. -/
theorem denotes_ways (hplain : compiler.IsPlain depth) (s : Sequence) :
    (s.ways compiler).Denotes (s.language compiler) := by
  induction s with
  | nil => exact .nothing
  | literal t rest ih => exact (Ways.Denotes.text t).andThen ih
  | parameter token rest ih => exact (denotes_parameterWays hplain token).andThen ih
  | optional body rest ihBody ihRest => exact (ihBody.either .nothing).andThen ihRest

end Compiler

/-! ## Catalogs -/

namespace Catalog

/-- Catalogs that come from the built-in or the empty one by adding types whose fragments are allowed. -/
inductive BuiltFrom [PropertyTable] (allowed : Text → Prop) : Catalog → Prop
  | builtin : BuiltFrom allowed .builtin
  | empty : BuiltFrom allowed .empty
  | withType {catalog next : Catalog} {name fragment : Text} : BuiltFrom allowed catalog → allowed fragment →
      catalog.withType? name fragment = .ok next → BuiltFrom allowed next

variable {catalog : Catalog}

/-- What a catalog gives is one of its entries. -/
theorem mem_entries_of_fragment? {name fragment : Text} (h : catalog.fragment? name = .ok fragment) :
    (name, fragment) ∈ catalog.table.entries := by
  unfold fragment? at h
  split at h
  · rename_i found hfound
    obtain rfl := Except.ok.inj h
    obtain ⟨before, after, heq, _⟩ := List.lookup_eq_some_iff.1 hfound
    rw [heq]
    simp
  · simp at h

/-- No built-in fragment names a property. -/
theorem namesProperty_of_mem_builtin : ∀ e ∈ builtin.table.entries, namesProperty e.2 = false := by
  decide +kernel

/-- The fragments that are added may do so, in brackets too, where Unicode is not off. -/
example : ["\\p\x7bLetter\x7d+", "[^\\pN\\P\x7bsc=Greek\x7d]", "(?-u)\\pL"].map
    (fun fragment => (empty.withType? ['t'] fragment.toList).toOption.isSome) = [true, true, false] := by
  decide +kernel

variable [PropertyTable]

theorem builtin_entries : ∀ e ∈ builtin.table.entries,
    isPlain e.2 = true ∧ isValid e.2 = true ∧ (nesting? e.2).all (· ≤ 3) = true := by
  have hentries : ∀ e ∈ builtin.table.entries,
      isPlain e.2 = true ∧ @isValid .empty e.2 = true ∧ (@nesting? .empty e.2).all (· ≤ 3) = true := by decide +kernel
  intro e he
  have hnone := namesProperty_of_mem_builtin e he
  rw [isValid_eq_empty hnone, nesting?_eq_empty hnone]
  exact hentries e he

theorem withType?_eq_ok_iff {next : Catalog} {name fragment : Text} :
    catalog.withType? name fragment = .ok next ↔
      isValid fragment = true ∧ next = ⟨catalog.table.insert name fragment⟩ := by
  unfold withType?
  split
  · rename_i hvalid
    simp [hvalid, eq_comm]
  · rename_i hvalid
    simp [hvalid]

/-- The fragments of a catalog are valid, and allowed if the built-in ones are. -/
theorem BuiltFrom.allowed_entries {allowed : Text → Prop} (h : catalog.BuiltFrom allowed)
    (hbuiltin : ∀ e ∈ Catalog.builtin.table.entries, allowed e.2) :
    ∀ e ∈ catalog.table.entries, allowed e.2 ∧ isValid e.2 = true := by
  induction h with
  | builtin => exact fun e he => ⟨hbuiltin e he, (builtin_entries e he).2.1⟩
  | empty => simp [Catalog.empty, TypeTable.empty]
  | withType _ hallowed hadd ih =>
    obtain ⟨hvalid, rfl⟩ := withType?_eq_ok_iff.1 hadd
    intro e he
    rcases TypeTable.mem_insertEntry he with rfl | he
    · exact ⟨hallowed, hvalid⟩
    · exact ih e he

/-- The fragments of a catalog are valid, and plain if those that were added are. -/
theorem BuiltFrom.entries (h : catalog.BuiltFrom fun fragment => isPlain fragment = true) :
    ∀ e ∈ catalog.table.entries, isPlain e.2 = true ∧ isValid e.2 = true :=
  h.allowed_entries fun e he => (builtin_entries e he).1

end Catalog

namespace Compiler

variable {compiler : Compiler}

theorem isPlain_of_builtFrom [PropertyTable] (h : compiler.catalog.BuiltFrom fun fragment => isPlain fragment = true) :
    compiler.IsPlain Assembly.depthLimit := by
  intro token fragment hfragment
  obtain ⟨hplain, hvalid⟩ := h.entries _ (Catalog.mem_entries_of_fragment? hfragment)
  exact ⟨hplain, hvalid, fun d hd => nesting?_le_of_isValid hvalid hd⟩

/-! ## Recognition -/

/-- The matcher of a template recognises exactly the language of the template. -/
theorem isMatch_iff_mem_language [PropertyTable] (compiler : Compiler) (source : Text) (template : Template)
    (p : Pattern) (hcatalog : compiler.catalog.BuiltFrom fun fragment => isPlain fragment = true)
    (hparse : Template.parse? compiler.grammar source = .ok template) (hcompile : compiler.compile source = .ok p)
    (hnodup : ((template.segments.tokens.filter (·.isIdentifier)).map (·.name)).Nodup)
    (hnesting : ∀ d, nesting? p.anchored = some d → d ≤ Assembly.depthLimit) :
    ∃ m, Matcher.ofPattern? p = .ok m ∧
      ∀ path, m.isMatch path = true ↔ path ∈ template.segments.language compiler := by
  have hplain := isPlain_of_builtFrom hcatalog
  -- the source is read once more by the compiler, with the same result
  have hpattern : compiler.pattern? template.segments = .ok p := by
    rw [compile, hparse] at hcompile
    exact hcompile
  rw [← parameterNames_of_pattern? hpattern] at hnodup
  obtain ⟨d, hd, _, hmatcher⟩ := ofPattern?_of_pattern? hplain hpattern hnodup
  obtain ⟨m, hm, hmatch⟩ := hmatcher (hnesting d hd)
  refine ⟨m, hm, fun path => ?_⟩
  rw [hmatch path]
  exact denotes_ways hplain template.segments [] path []

/-- A fragment with alternatives and a flag keeps to its group: its second alternative still has the point in
front of it, and the segment may be left out with both. -/
theorem isMatch_second_alternative :
    ∃ catalog p m, Catalog.builtin.withType? "code".toList "(?s).|bc".toList = .ok catalog ∧
      (ofCatalog .standard catalog).compile "/x[.{kind:code}]".toList = .ok p ∧ Matcher.ofPattern? p = .ok m ∧
      m.isMatch "/x.bc".toList = true ∧ m.isMatch "/x".toList = true := by
  let fragment : Text := "(?s).|bc".toList
  let catalog : Catalog := ⟨Catalog.builtin.table.insert "code".toList fragment⟩
  let token : Token := ⟨"kind".toList, some "code".toList, "{kind:code}".toList⟩
  let body : Sequence := .literal ['.'] (.parameter token .nil)
  let source : Text := "/x[.{kind:code}]".toList
  let p : Pattern := ⟨"/x(?:\\.(?P<kind>(?s).|bc))?".toList, ["kind".toList]⟩
  have hadd : Catalog.builtin.withType? "code".toList fragment = .ok catalog := if_pos (by decide +kernel)
  have hcatalog : (ofCatalog .standard catalog).catalog.BuiltFrom fun fragment => isPlain fragment = true :=
    .withType .builtin (by decide +kernel) hadd
  have hparse : Template.parse? .standard source =
      .ok ⟨source, .standard, .literal "/x".toList (.optional body .nil)⟩ := by decide +kernel
  have hcompile : (ofCatalog .standard catalog).compile source = .ok p := by decide +kernel
  have hnesting : nesting? p.anchored = some 7 := by decide +kernel
  obtain ⟨m, hm, hmatch⟩ := isMatch_iff_mem_language (ofCatalog .standard catalog) source _ p hcatalog hparse hcompile
    (by decide) (by rw [hnesting]; rintro d ⟨⟩; decide)
  have hfull : MatchesInFull fragment "bc".toList :=
    ⟨.alt (.set .all) (.literal "bc".toList), [], by decide +kernel, Or.inr ⟨rfl, rfl⟩⟩
  have hvalue : "bc".toList ∈ (ofCatalog .standard catalog).parameterLanguage token := by
    rw [parameterLanguage, if_pos (by decide)]
    exact ⟨fragment, by decide +kernel, hfull⟩
  refine ⟨catalog, p, m, hadd, hcompile, hm, (hmatch _).2 ?_, (hmatch _).2 ?_⟩
  · have hbody : ".bc".toList ∈ body.language (ofCatalog .standard catalog) :=
      Language.mem_mul.2 ⟨['.'], rfl, "bc".toList, Language.mem_mul.2 ⟨_, hvalue, [], rfl, rfl⟩, rfl⟩
    exact Language.mem_mul.2
      ⟨"/x".toList, rfl, ".bc".toList, Language.mem_mul.2 ⟨_, Or.inl hbody, [], rfl, rfl⟩, rfl⟩
  · exact Language.mem_mul.2 ⟨"/x".toList, rfl, [], Language.mem_mul.2 ⟨[], Or.inr rfl, [], rfl, rfl⟩, rfl⟩

end Compiler

end PathTemplate
