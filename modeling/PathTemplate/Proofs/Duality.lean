/-
# PathTemplate.Proofs.Duality — a reversed path is recognised.

Two walks over the same tree have nothing to do with each other: one flattens the tree to text and fills it in,
the other writes a pattern and never looks at text again. They meet in the language of the template. What
reversing comes to is a text of the language, if the values are texts of the fragments; and the matcher of the
template recognises the language. With the built-in types no more is needed than that segments are not nested
deeper than 34, which keeps the pattern well within the nesting that patterns may have.
-/
import PathTemplate.Proofs.Recognition
import PathTemplate.Proofs.Reversal
import PathTemplate.Settings

namespace PathTemplate

open Regex

/-! ## Reversed paths -/

namespace Compiler

variable {compiler : Compiler} {g : Grammar} {values : Supply} {s : Sequence}

/-- What a complete sequence expands to is a text of its language. -/
theorem expand_mem_language [PropertyTable] (hidentifier : ∀ token ∈ s.tokens, token.isIdentifier = true)
    (hvalues : ∀ token ∈ s.tokens, ∀ value, values token.name = some value → value ∈ compiler.fragmentLanguage token)
    (hcomplete : s.isComplete g values = true) : s.expand g values ∈ s.language compiler := by
  induction s with
  | nil => exact Language.nil_mem_one
  | literal t rest ih =>
    rw [Sequence.isComplete_literal, Bool.and_eq_true] at hcomplete
    exact Language.append_mem_mul rfl (ih hidentifier hvalues hcomplete.2)
  | parameter token rest ih =>
    rw [Sequence.isComplete_parameter, Bool.and_eq_true] at hcomplete
    obtain ⟨value, hvalue, _⟩ := Grammar.resolves_eq_true_iff.1 hcomplete.1
    have hrest := ih (fun other hother => hidentifier other (List.mem_cons_of_mem _ hother))
      (fun other hother => hvalues other (List.mem_cons_of_mem _ hother)) hcomplete.2
    have hparameter : value ∈ compiler.parameterLanguage token := by
      rw [parameterLanguage, if_pos (hidentifier token List.mem_cons_self)]
      exact hvalues token List.mem_cons_self value hvalue
    rw [Sequence.expand, hvalue, Option.getD_some]
    exact Language.append_mem_mul hparameter hrest
  | optional body rest ihBody ihRest =>
    rw [Sequence.isComplete_optional] at hcomplete
    have hrest := ihRest (fun token htoken => hidentifier token (List.mem_append_right _ htoken))
      (fun token htoken => hvalues token (List.mem_append_right _ htoken)) hcomplete
    rw [Sequence.expand]
    refine Language.append_mem_mul ?_ hrest
    rw [Language.mem_add]
    -- a segment that is not complete is left out, which the language allows
    split
    · rename_i hbody
      exact Or.inl (ihBody (fun token htoken => hidentifier token (List.mem_append_left _ htoken))
        (fun token htoken => hvalues token (List.mem_append_left _ htoken)) hbody)
    · exact Or.inr Language.nil_mem_one

/-! ## Compiled templates -/

/-- A sequence has a pattern if the types of its parameters are known. -/
theorem exists_pattern? (hknown : ∀ token ∈ s.tokens, ∃ fragment, compiler.fragment? token = .ok fragment) :
    ∃ p, compiler.pattern? s = .ok p := by
  refine exists_pattern?_of_tokens fun token htoken => ?_
  obtain ⟨fragment, hfragment⟩ := hknown token htoken
  rw [parameterPattern?, hfragment]
  split
  · exact ⟨_, rfl⟩
  · exact ⟨_, rfl⟩

/-- The built-in fragments are plain and nested three deep at the most. -/
theorem isPlain_of_builtin [PropertyTable] (h : compiler.catalog = .builtin) : compiler.IsPlain 3 := by
  intro token fragment hfragment
  have hmem := Catalog.mem_entries_of_fragment? hfragment
  rw [h] at hmem
  obtain ⟨hplain, hvalid, hnesting⟩ := Catalog.builtin_entries _ hmem
  refine ⟨hplain, hvalid, fun d hd => ?_⟩
  rw [hd] at hnesting
  simpa using hnesting

end Compiler

/-- Without types of their own, settings give a compiler with their grammar and the built-in types. -/
theorem Settings.eq_of_compiler [PropertyTable] {settings : Settings} {compiler : Compiler}
    (htypes : settings.types = .empty) (h : settings.compiler = .ok compiler) :
    settings.grammar = .ok compiler.grammar ∧ compiler.catalog = .builtin := by
  have hcatalog : settings.catalog = .ok .builtin := by
    rw [Settings.catalog, htypes]
    rfl
  obtain ⟨grammar, hgrammar, h⟩ := bind_eq_ok_iff.1 h
  obtain ⟨catalog, hcatalog', h⟩ := bind_eq_ok_iff.1 h
  obtain rfl := Except.ok.inj (hcatalog.symm.trans hcatalog')
  obtain ⟨_, _, h⟩ := bind_eq_ok_iff.1 h
  obtain rfl := Except.ok.inj h
  exact ⟨hgrammar, rfl⟩

/-! ## Duality -/

/-- What a template is reversed to, its matcher recognises. -/
theorem isMatch_of_reverse [PropertyTable] (settings : Settings) (compiler : Compiler) (grammar : Grammar)
    (source path : Text) (template : Template) (values : Supply) (htypes : settings.types = .empty)
    (hcompiler : settings.compiler = .ok compiler) (hgrammar : settings.grammar = .ok grammar)
    (hparse : Template.parse? grammar source = .ok template) (hside : template.segments.OneSided grammar)
    (hidentifier : ∀ token ∈ template.segments.tokens, token.isIdentifier = true)
    (hdistinct : (template.segments.tokens.map (·.name)).Nodup)
    (hknown : ∀ token ∈ template.segments.tokens, ∃ fragment, compiler.fragment? token = .ok fragment)
    (hdepth : template.depth ≤ 34)
    (hvalues : ∀ token ∈ template.segments.tokens, ∀ value, values token.name = some value →
      value ∈ compiler.fragmentLanguage token)
    (hreverse : grammar.reverse source values = .ok path) :
    ∃ p m, compiler.compile source = .ok p ∧ Matcher.ofPattern? p = .ok m ∧ m.isMatch path = true := by
  obtain ⟨hgrammar', hbuiltin⟩ := Settings.eq_of_compiler htypes hcompiler
  obtain rfl := Except.ok.inj (hgrammar.symm.trans hgrammar')
  have hplain := Compiler.isPlain_of_builtin hbuiltin
  obtain ⟨p, hp⟩ := Compiler.exists_pattern? hknown
  have hcompile : compiler.compile source = .ok p := bind_eq_ok_iff.2 ⟨template, hparse, hp⟩
  have hnodup : p.parameterNames.Nodup := by
    rw [Compiler.parameterNames_of_pattern? hp, List.filter_eq_self.2 hidentifier]
    exact hdistinct
  obtain ⟨d, _, hd, hmatcher⟩ := Compiler.ofPattern?_of_pattern? hplain hp hnodup
  -- a path of 34 segments within each other stays far below the limit of 250
  have hlimit : d ≤ Assembly.depthLimit := by
    have hsegments : template.segments.depth ≤ 34 := hdepth
    have : Assembly.depthLimit = 250 := rfl
    omega
  obtain ⟨m, hm, hmatch⟩ := hmatcher hlimit
  refine ⟨p, m, hcompile, hm, (hmatch path).2 ?_⟩
  rw [Compiler.denotes_ways hplain template.segments [] path []]
  rw [Grammar.reverse_eq_ite values hparse hside] at hreverse
  split at hreverse
  · rename_i hcomplete
    obtain rfl := Except.ok.inj hreverse
    exact Compiler.expand_mem_language hidentifier hvalues hcomplete
  · simp at hreverse

/-- A value that its type's fragment matches comes back in the path of an optional segment. -/
theorem isMatch_of_reverse_digits :
    ∃ p m, Compiler.standard.compile "/u[/{id:digits}]".toList = .ok p ∧ Matcher.ofPattern? p = .ok m ∧
      m.isMatch "/u/7".toList = true := by
  let token : Token := ⟨"id".toList, some "digits".toList, "{id:digits}".toList⟩
  let segments : Sequence := .literal "/u".toList (.optional (.literal ['/'] (.parameter token .nil)) .nil)
  have hfull : MatchesInFull "\\d+".toList ['7'] :=
    ⟨.repeated (.set CharSet.decimals) 1 none true, [], by decide +kernel,
      1, ⟨Nat.le_refl 1, by simp⟩, ['7'], [], [], [], rfl, rfl, ⟨⟨'7', by decide +kernel, rfl⟩, rfl⟩, ⟨rfl, rfl⟩⟩
  have hvalue : ['7'] ∈ Compiler.standard.fragmentLanguage token := ⟨"\\d+".toList, by decide +kernel, hfull⟩
  refine isMatch_of_reverse .standard .standard .standard "/u[/{id:digits}]".toList "/u/7".toList
    ⟨"/u[/{id:digits}]".toList, .standard, segments⟩ (.ofPairs [("id".toList, ['7'])]) rfl (by decide +kernel)
    (by decide) (by decide +kernel) (Or.inl (by decide)) (by decide) (by decide) ?known (by decide) ?values
    (by decide +kernel)
  case known =>
    intro other hother
    obtain rfl := List.mem_singleton.1 hother
    exact ⟨"\\d+".toList, by decide +kernel⟩
  case values =>
    intro other hother value h
    obtain rfl := List.mem_singleton.1 hother
    obtain rfl := Option.some.inj h
    exact hvalue

end PathTemplate
