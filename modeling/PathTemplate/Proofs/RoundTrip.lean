/-
# PathTemplate.Proofs.RoundTrip — values come back from the path that they were put into.

A path can be read in one way only if slashes keep its parts apart. That is so for templates in which no value can
hold a slash, a parameter is followed by one or by nothing, and an optional segment begins with one and ends its
sequence. On such a template `Sequence.Captures` is a function of the path, so of the values that were put in by
reversing exactly those of the kept segments are captured again.

There is no bound here on the number of parameters, and so none on the size of the pattern. That there is a matcher is
shown for an engine without a limit; of any other engine it is only shown what its matcher gives if it makes one.
-/
import PathTemplate.Proofs.Extraction

namespace PathTemplate

/-! ## Expressions that avoid a character -/

namespace Regex

/-- Does no text that the expression can take hold the character? -/
def avoids (c : Char) : Regex → Bool
  | literal t => !t.contains c
  | set s => !s.contains c
  | seq first second => first.avoids c && second.avoids c
  | alt first second => first.avoids c && second.avoids c
  | repeated body _ _ _ => body.avoids c
  | numbered _ body => body.avoids c
  | named _ body => body.avoids c
  | _ => true

theorem not_mem_of_avoids {c : Char} {r : Regex} (h : r.avoids c = true) {before taken after : Text}
    {marks : List Mark} (hways : r.ways before taken after marks) : c ∉ taken := by
  induction r generalizing before taken after marks with
  | empty =>
    obtain ⟨rfl, -⟩ := hways
    exact List.not_mem_nil
  | literal t =>
    obtain ⟨rfl, -⟩ := hways
    simpa [avoids] using h
  | set s =>
    obtain ⟨⟨d, hd, rfl⟩, -⟩ := hways
    rw [List.mem_singleton]
    rintro rfl
    simp [avoids, hd] at h
  | anchor a =>
    obtain ⟨rfl, -⟩ := hways
    exact List.not_mem_nil
  | seq first second ihFirst ihSecond =>
    obtain ⟨hfirst, hsecond⟩ := (Bool.and_eq_true _ _).mp h
    obtain ⟨u, v, m, n, rfl, rfl, hu, hv⟩ := hways
    rw [List.mem_append, not_or]
    exact ⟨ihFirst hfirst hu, ihSecond hsecond hv⟩
  | alt first second ihFirst ihSecond =>
    obtain ⟨hfirst, hsecond⟩ := (Bool.and_eq_true _ _).mp h
    rcases hways with hways | hways
    · exact ihFirst hfirst hways
    · exact ihSecond hsecond hways
  | repeated body least most greedy ih =>
    obtain ⟨n, -, hpower⟩ := hways
    -- no turn takes the character, whatever their number
    induction n generalizing before taken marks with
    | zero =>
      obtain ⟨rfl, -⟩ := hpower
      exact List.not_mem_nil
    | succ n ihn =>
      obtain ⟨u, v, m, k, rfl, rfl, hu, hv⟩ := hpower
      rw [List.mem_append, not_or]
      exact ⟨ih h hu, ihn hv⟩
  | numbered number body ih => exact ih h hways
  | named name body ih =>
    obtain ⟨_, _, _, _, rfl, rfl, ⟨rfl, rfl⟩, value, _, m, _, rfl, rfl, hvalue, rfl, rfl⟩ := hways
    simpa using ih h hvalue

end Regex

namespace Compiler

open Regex

variable {compiler : Compiler}

/-- Of the built-in types, only `any` has values with slashes. -/
theorem slash_not_mem_of_mem_fragmentLanguage [PropertyTable] (hcatalog : compiler.catalog = .builtin) {token : Token}
    (hany : token.typeName.getD compiler.defaultType ≠ "any".toList) {value : Text}
    (hvalue : value ∈ compiler.fragmentLanguage token) : '/' ∉ value := by
  obtain ⟨fragment, hfragment, r, marks, hparse, hways⟩ := hvalue
  have hmem := Catalog.mem_entries_of_fragment? hfragment
  rw [hcatalog] at hmem
  have hentries : ∀ e ∈ Catalog.builtin.table.entries, e.1 ≠ "any".toList →
      (@parse? .empty e.2).all (avoids '/') = true := by decide +kernel
  have havoids := hentries _ hmem hany
  rw [← parse?_eq_empty (Catalog.namesProperty_of_mem_builtin _ hmem), hparse] at havoids
  exact not_mem_of_avoids havoids hways

end Compiler

/-! ## Paths in parts -/

/-- The text is empty or begins with a slash. -/
def Text.AtSlash (t : Text) : Prop := ∀ c, t.head? = some c → c = '/'

/-- What has no slash ends where a slash comes, or the text. -/
theorem append_inj_of_atSlash {x y s t : Text} (hx : '/' ∉ x) (hy : '/' ∉ y) (hs : Text.AtSlash s)
    (ht : Text.AtSlash t) (h : x ++ s = y ++ t) : x = y ∧ s = t := by
  have takeWhile_eq {x s : Text} (hx : '/' ∉ x) (hs : Text.AtSlash s) : (x ++ s).takeWhile (· ≠ '/') = x := by
    have hinside : ∀ c ∈ x, decide (c ≠ '/') = true := by
      intro c hc
      exact decide_eq_true (ne_of_mem_of_not_mem hc hx)
    rw [List.takeWhile_append_of_pos hinside]
    cases s with
    | nil => simp
    | cons c s => simp [hs c rfl]
  obtain rfl : x = y := by rw [← takeWhile_eq hx hs, h, takeWhile_eq hy ht]
  exact ⟨rfl, List.append_cancel_left h⟩

namespace Sequence

/-- The sequence begins with a literal text that begins with a slash. -/
def BeginsWithSlash (s : Sequence) : Prop := ∃ t rest, s = literal ('/' :: t) rest

/-- An optional segment is the last of its sequence and begins with a slash. A parameter is the last of its sequence,
or it is followed by a literal text that begins with a slash or by an optional segment. -/
def IsSlashed : Sequence → Prop
  | nil => True
  | literal _ rest => rest.IsSlashed
  | parameter _ rest => (rest = nil ∨ rest.BeginsWithSlash ∨ ∃ body after, rest = optional body after) ∧ rest.IsSlashed
  | optional body rest => rest = nil ∧ body.BeginsWithSlash ∧ body.IsSlashed

variable {compiler : Compiler} {s : Sequence} {path : Text} {captures captures' : List (Text × Text)}

theorem BeginsWithSlash.head? [Regex.PropertyTable] (hbegins : s.BeginsWithSlash)
    (h : s.Captures compiler path captures) : path.head? = some '/' := by
  obtain ⟨t, rest, rfl⟩ := hbegins
  cases h
  rfl

/-- Behind a parameter there is a slash or nothing. -/
theorem IsSlashed.atSlash [Regex.PropertyTable] {token : Token} {rest : Sequence}
    (hslashed : (parameter token rest).IsSlashed) (h : rest.Captures compiler path captures) : Text.AtSlash path := by
  intro c hc
  rcases hslashed.1 with rfl | hbegins | ⟨body, after, rfl⟩
  · cases h
    simp at hc
  · rw [hbegins.head? h] at hc
    exact (Option.some.inj hc).symm
  · obtain ⟨rfl, hbegins, -⟩ := hslashed.2
    cases h with
    | taken hbody hrest =>
      cases hrest
      rw [List.append_nil, hbegins.head? hbody] at hc
      exact (Option.some.inj hc).symm
    | skipped hrest =>
      cases hrest
      simp at hc

/-- Where slashes keep the parts apart, a path is captured in one way only. -/
theorem Captures.unique [Regex.PropertyTable] (hslashed : s.IsSlashed)
    (hvalues : ∀ token ∈ s.tokens, ∀ value ∈ compiler.parameterLanguage token, '/' ∉ value)
    (h : s.Captures compiler path captures) (h' : s.Captures compiler path captures') : captures = captures' := by
  induction h generalizing captures' with
  | nil =>
    cases h'
    rfl
  | @literal t path captures rest _ ih =>
    generalize hwhole : t ++ path = whole at h'
    cases h' with
    | literal h' =>
      obtain rfl := List.append_cancel_left hwhole
      exact ih hslashed hvalues h'
  | @parameter token value path captures rest hvalue hrest ih =>
    generalize hwhole : value ++ path = whole at h'
    cases h' with
    | parameter hvalue' hrest' =>
      have hslash := hvalues token List.mem_cons_self
      obtain ⟨rfl, rfl⟩ := append_inj_of_atSlash (hslash _ hvalue) (hslash _ hvalue') (hslashed.atSlash hrest)
        (hslashed.atSlash hrest') hwhole
      rw [ih hslashed.2 (fun other hother => hvalues other (List.mem_cons_of_mem _ hother)) hrest']
  | @taken inside path inner captures body rest hbody hrest ihBody _ =>
    obtain ⟨rfl, hbegins, hslashedBody⟩ := hslashed
    cases hrest
    rw [List.append_nil] at h' ⊢
    cases h' with
    | taken hbody' hrest' =>
      cases hrest'
      rw [List.append_nil] at ihBody ⊢
      exact ihBody hslashedBody (fun token htoken => hvalues token (List.mem_append_left _ htoken)) hbody'
    | skipped hrest' =>
      -- a segment that took part has taken a slash
      cases hrest'
      have hhead := hbegins.head? hbody
      simp at hhead
  | @skipped path captures body rest hrest _ =>
    obtain ⟨rfl, hbegins, -⟩ := hslashed
    cases hrest
    generalize hwhole : ([] : Text) = whole at h'
    cases h' with
    | taken hbody' hrest' =>
      cases hrest'
      have hhead := hbegins.head? hbody'
      rw [List.append_nil] at hwhole
      simp [← hwhole] at hhead
    | skipped hrest' =>
      cases hrest'
      rfl

/-! ## Kept parameters -/

/-- The parameters of the sequence itself, and of the segments that are kept with all segments around them. -/
def keptTokens (g : Grammar) (values : Supply) : Sequence → List Token
  | nil => []
  | literal _ rest => rest.keptTokens g values
  | parameter token rest => token :: rest.keptTokens g values
  | optional body rest => (if body.isKept g values then body.keptTokens g values else []) ++ rest.keptTokens g values

variable {g : Grammar} {values : Supply}

/-- What a complete sequence expands to can be captured with the values of the kept parameters. -/
theorem exists_captures_expand [Regex.PropertyTable] (hread : s.IsRead g) (hregular : s.IsRegular g)
    (hvalues : ∀ token ∈ s.tokens, ∀ value, values token.name = some value → value ∈ compiler.fragmentLanguage token)
    (hcomplete : s.isComplete g values = true) :
    ∃ captures, s.Captures compiler (s.expand g values) captures ∧
      captures.map (fun c => (c.1, some c.2)) =
        (s.keptTokens g values).map fun token => (token.name, values token.name) := by
  induction s with
  | nil => exact ⟨[], .nil, rfl⟩
  | literal t rest ih =>
    rw [isComplete_literal, Bool.and_eq_true] at hcomplete
    obtain ⟨captures, hcaptures, hkept⟩ := ih hread hregular.of_literal.2 hvalues hcomplete.2
    exact ⟨captures, .literal hcaptures, hkept⟩
  | parameter token rest ih =>
    rw [isComplete_parameter, Bool.and_eq_true] at hcomplete
    obtain ⟨value, hvalue, _⟩ := Grammar.resolves_eq_true_iff.1 hcomplete.1
    obtain ⟨hidentifier, _, hregularRest⟩ := hregular.of_parameter
    obtain ⟨captures, hcaptures, hkept⟩ := ih hread.of_parameter.2 hregularRest
      (fun other hother => hvalues other (List.mem_cons_of_mem _ hother)) hcomplete.2
    have hlanguage : value ∈ compiler.parameterLanguage token := by
      rw [Compiler.parameterLanguage, if_pos hidentifier]
      exact hvalues token List.mem_cons_self value hvalue
    refine ⟨token.captured value ++ captures, ?_, ?_⟩
    · rw [expand, hvalue]
      exact .parameter hlanguage hcaptures
    · rw [Token.captured, if_pos hidentifier, keptTokens, List.map_append, hkept, List.map_cons, List.map_cons, hvalue]
      rfl
  | optional body rest ihBody ihRest =>
    obtain ⟨hreadBody, hreadRest⟩ := hread.of_optional
    obtain ⟨hregularBody, hregularRest, -⟩ := hregular.of_optional
    obtain ⟨captures, hcaptures, hkept⟩ := ihRest hreadRest hregularRest
      (fun token htoken => hvalues token (List.mem_append_right _ htoken)) hcomplete
    rw [expand, keptTokens, isKept_eq_isComplete hreadBody hregularBody.oneSided, List.map_append, ← hkept]
    by_cases hbody : body.isComplete g values = true
    · obtain ⟨inner, hinner, hkeptBody⟩ := ihBody hreadBody hregularBody
        (fun token htoken => hvalues token (List.mem_append_left _ htoken)) hbody
      rw [if_pos hbody, if_pos hbody, ← hkeptBody, ← List.map_append]
      exact ⟨_, .taken hinner hcaptures, rfl⟩
    · rw [if_neg hbody, if_neg hbody]
      exact ⟨captures, .skipped hcaptures, rfl⟩

end Sequence

/-! ## Values come back -/

/-- On a template whose parts are kept apart by slashes, the matcher gives for a reversed path the values of the
parameters that were kept, and no others. The pattern of the template is valid, but an engine may still refuse it for
its size, which is what `admits` decides; any matcher that was made gives these values. -/
theorem values_of_reverse [Regex.PropertyTable] (compiler : Compiler) (source path : Text) (template : Template)
    (values : Supply)
    (hcatalog : compiler.catalog = .builtin) (hparse : Template.parse? compiler.grammar source = .ok template)
    (hdepth : template.depth ≤ 34) (hregular : template.segments.IsRegular compiler.grammar)
    (htypes : ∀ token ∈ template.segments.tokens, (∃ fragment, compiler.fragment? token = .ok fragment) ∧
      token.typeName.getD compiler.defaultType ≠ "any".toList)
    (hslashed : template.segments.IsSlashed)
    (hvalues : ∀ token ∈ template.segments.tokens, ∀ value, values token.name = some value →
      value ∈ compiler.fragmentLanguage token)
    (hreverse : compiler.grammar.reverse source values = .ok path) :
    ∃ p pairs, compiler.compile source = .ok p ∧ (∃ m, Matcher.ofPattern? p = .ok m) ∧
      (∀ admits m, Matcher.ofPatternWithin? admits p = .ok m → m.values? path = some pairs) ∧
      pairs.map (fun pair => (pair.1, some pair.2)) =
        (template.segments.keptTokens compiler.grammar values).map fun token => (token.name, values token.name) := by
  have hplain := Compiler.isPlain_of_builtin hcatalog
  have hread : template.segments.IsRead compiler.grammar :=
    Grammar.reads_of_mem_tokens (Template.sequence?_of_parse? hparse).2
  obtain ⟨p, hpattern⟩ := Compiler.exists_pattern? fun token htoken => (htypes token htoken).1
  have hlimit : 3 + 2 + 3 * template.segments.depth ≤ Regex.Assembly.depthLimit := by
    have hsegments : template.segments.depth ≤ 34 := hdepth
    have : Regex.Assembly.depthLimit = 250 := rfl
    omega
  rw [Grammar.reverse_eq_ite values hparse hregular.oneSided] at hreverse
  split at hreverse
  · rename_i hcomplete
    obtain rfl := Except.ok.inj hreverse
    obtain ⟨kept, hkept, hkeptTokens⟩ := Sequence.exists_captures_expand hread hregular hvalues hcomplete
    obtain ⟨m, pairs, hm, hpairs, hcaptures⟩ := Compiler.exists_values? hplain
      (Compiler.isUnmarked_of_builtin hcatalog) hpattern (hregular.nodup_parameterNames hpattern) hlimit
      (Compiler.expand_mem_language hregular.identifiers hvalues hcomplete)
    -- the values that are captured and those that were put in are captures of the same path
    obtain rfl := hcaptures.unique hslashed (fun token htoken value hvalue => by
      rw [Compiler.parameterLanguage, if_pos (hregular.identifiers token htoken)] at hvalue
      exact Compiler.slash_not_mem_of_mem_fragmentLanguage hcatalog (htypes token htoken).2 hvalue) hkept
    refine ⟨p, pairs, bind_eq_ok_iff.2 ⟨template, hparse, hpattern⟩, ⟨m, hm⟩, fun admits m' hm' => ?_, hkeptTokens⟩
    -- a limit decides whether there is a matcher, but not which one
    obtain rfl := Except.ok.inj (hm.symm.trans (Matcher.ofPattern?_of_ofPatternWithin? hm'))
    exact hpairs
  · simp at hreverse

/-- Of two segments within each other the outer one is kept, and the path gives back its value alone. -/
theorem values_of_reverse_nested :
    ∃ p pairs, Compiler.standard.compile "/u[/{a:digits}[/{b}]]".toList = .ok p ∧
      (∃ m, Matcher.ofPattern? p = .ok m) ∧
      (∀ admits m, Matcher.ofPatternWithin? admits p = .ok m → m.values? "/u/7".toList = some pairs) ∧
      pairs.map (fun pair => (pair.1, some pair.2)) = [("a".toList, some ['7'])] := by
  let source : Text := "/u[/{a:digits}[/{b}]]".toList
  let first : Token := ⟨"a".toList, some "digits".toList, "{a:digits}".toList⟩
  let second : Token := ⟨"b".toList, none, "{b}".toList⟩
  let inner : Sequence := .literal ['/'] (.parameter second .nil)
  let body : Sequence := .literal ['/'] (.parameter first (.optional inner .nil))
  let segments : Sequence := .literal "/u".toList (.optional body .nil)
  let values : Supply := .ofPairs [("a".toList, ['7'])]
  have hparse : Template.parse? .standard source = .ok ⟨source, .standard, segments⟩ := by decide +kernel
  have hslashed : segments.IsSlashed :=
    ⟨rfl, ⟨[], _, rfl⟩, Or.inr (Or.inr ⟨inner, .nil, rfl⟩), rfl, ⟨[], _, rfl⟩, Or.inl rfl, trivial⟩
  have hdigits : Regex.parse? "\\d+".toList = some (.repeated (.set Regex.CharSet.decimals) 1 none true) := by
    decide +kernel
  have hkept : (segments.keptTokens .standard values).map (fun token => (token.name, values token.name)) =
      [("a".toList, some ['7'])] := by
    decide +kernel
  rw [← hkept]
  refine values_of_reverse .standard source _ _ values rfl hparse (by decide) ⟨by decide, by decide, by decide⟩
    ?types hslashed ?values (by decide +kernel)
  case types =>
    intro token htoken
    rcases List.mem_cons.1 htoken with rfl | htoken
    · exact ⟨⟨"\\d+".toList, by decide +kernel⟩, by decide⟩
    · obtain rfl := List.mem_singleton.1 htoken
      exact ⟨⟨"[^/.]+".toList, by decide +kernel⟩, by decide⟩
  case values =>
    intro token htoken value hvalue
    rcases List.mem_cons.1 htoken with rfl | htoken
    · obtain rfl := Option.some.inj hvalue
      exact ⟨"\\d+".toList, by decide +kernel, Regex.matchesInFull_of_repeated_set hdigits (by decide +kernel)⟩
    · obtain rfl := List.mem_singleton.1 htoken
      have hnone : values second.name = none := by decide
      rw [hnone] at hvalue
      simp at hvalue

end PathTemplate
