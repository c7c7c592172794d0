/-
# PathTemplate.Proofs.Extraction — the values of a match, and the way back from them.

A match cuts a path along the tree of the template: into the literal texts, a text of its fragment for each parameter,
and what the segments take that take part. `Sequence.Captures` says so with the values that are captured on the way.
A path may be cut in more than one way, and nothing is said about which of them a match takes. But whichever it is,
the values that the matcher gives are those of one of them.

That is enough to go back. A segment took part exactly if its own parameters have values, so reversing the template
with the values keeps just the segments that took part, and comes to the path again.
-/
import PathTemplate.Proofs.Duality
import PathTemplate.Proofs.Regex.Marks

namespace PathTemplate

open Regex

/-! ## Captures -/

/-- What a parameter adds to the values of a match: its name and its text, if its name can name a group. -/
def Token.captured (token : Token) (value : Text) : List (Text × Text) :=
  if token.isIdentifier then [(token.name, value)] else []

namespace Sequence

theorem ownTokens_subset_tokens (s : Sequence) : s.ownTokens ⊆ s.tokens := by
  induction s with
  | nil => exact List.Subset.refl _
  | literal t rest ih => exact ih
  | parameter token rest ih => exact List.cons_subset_cons token ih
  | optional body rest _ ih => exact List.subset_append_of_subset_right _ ih

/-- The sequence can take the path so that the values are captured, in document order. -/
inductive Captures [PropertyTable] (compiler : Compiler) : Sequence → Text → List (Text × Text) → Prop
  | nil : Captures compiler nil [] []
  | literal {t path : Text} {captures : List (Text × Text)} {rest : Sequence} :
      rest.Captures compiler path captures → Captures compiler (literal t rest) (t ++ path) captures
  | parameter {token : Token} {value path : Text} {captures : List (Text × Text)} {rest : Sequence} :
      value ∈ compiler.parameterLanguage token → rest.Captures compiler path captures →
      Captures compiler (parameter token rest) (value ++ path) (token.captured value ++ captures)
  | taken {inside path : Text} {inner captures : List (Text × Text)} {body rest : Sequence} :
      body.Captures compiler inside inner → rest.Captures compiler path captures →
      Captures compiler (optional body rest) (inside ++ path) (inner ++ captures)
  | skipped {path : Text} {captures : List (Text × Text)} {body rest : Sequence} :
      rest.Captures compiler path captures → Captures compiler (optional body rest) path captures

variable [PropertyTable] {compiler : Compiler} {s : Sequence} {path : Text} {captures : List (Text × Text)}

/-- Parameters are captured in document order, each at most once. -/
theorem Captures.names_sublist (h : s.Captures compiler path captures) :
    (captures.map (·.1)).Sublist ((s.tokens.filter (·.isIdentifier)).map (·.name)) := by
  induction h with
  | nil => exact List.Sublist.refl _
  | literal _ ih => exact ih
  | @parameter token value path captures rest _ _ ih =>
    rw [tokens, Token.captured]
    by_cases hidentifier : token.isIdentifier = true
    · rw [if_pos hidentifier, List.filter_cons_of_pos hidentifier]
      exact ih.cons_cons _
    · rw [if_neg hidentifier, List.filter_cons_of_neg hidentifier]
      exact ih
  | taken _ _ ihInner ihRest =>
    rw [tokens, List.filter_append, List.map_append, List.map_append]
    exact ihInner.append ihRest
  | skipped _ ih =>
    rw [tokens, List.filter_append, List.map_append]
    exact ih.trans (List.sublist_append_right _ _)

/-- Every name that is captured is that of a parameter. -/
theorem Captures.names_subset (h : s.Captures compiler path captures) :
    captures.map (·.1) ⊆ s.tokens.map (·.name) :=
  (h.names_sublist.trans (List.filter_sublist.map _)).subset

/-- What is captured is a part of the path. -/
theorem Captures.value_subset (h : s.Captures compiler path captures) : ∀ c ∈ captures, c.2 ⊆ path := by
  induction h with
  | nil => simp
  | literal _ ih => exact fun c hc => List.subset_append_of_subset_right _ (ih c hc)
  | @parameter token value path captures rest _ _ ih =>
    intro c hc
    rcases List.mem_append.1 hc with hc | hc
    · rw [Token.captured] at hc
      split at hc
      · obtain rfl := List.mem_singleton.1 hc
        exact List.subset_append_left _ _
      · simp at hc
    · exact List.subset_append_of_subset_right _ (ih c hc)
  | taken _ _ ihInner ihRest =>
    intro c hc
    rcases List.mem_append.1 hc with hc | hc
    · exact List.subset_append_of_subset_left _ (ihInner c hc)
    · exact List.subset_append_of_subset_right _ (ihRest c hc)
  | skipped _ ih => exact ih

end Sequence

/-! ## The values of a match -/

namespace Compiler

variable [PropertyTable] {compiler : Compiler} {s : Sequence} {depth : Nat}

/-- The fragments that the compiler may use have no named groups of their own. -/
def IsUnmarked (compiler : Compiler) : Prop :=
  ∀ token fragment r, compiler.fragment? token = .ok fragment → parse? fragment = some r → r.isUnmarked = true

/-- The group of a parameter takes a text of its language, and leaves marks around it if it has a name. -/
theorem records_of_parameterWays (hplain : compiler.IsPlain depth) (hunmarked : compiler.IsUnmarked) {token : Token}
    {before value after : Text} {marks : List Mark} (h : compiler.parameterWays token before value after marks) :
    value ∈ compiler.parameterLanguage token ∧ Records (before ++ value ++ after) marks (token.captured value) := by
  refine ⟨(denotes_parameterWays hplain token before value after).1 ⟨marks, h⟩, ?_⟩
  rw [Token.captured]
  by_cases hidentifier : token.isIdentifier = true
  · rw [parameterWays, if_pos hidentifier] at h
    have hfragmentUnmarked : Ways.Unmarked fun before taken after marks =>
        ∃ fragment, compiler.fragment? token = .ok fragment ∧ patternWays fragment before taken after marks := by
      rintro before taken after marks ⟨fragment, hfragment, r, hparse, hways⟩
      exact unmarked_of_isUnmarked (hunmarked token fragment r hfragment hparse) _ _ _ _ hways
    obtain ⟨-, rfl⟩ := Ways.marks_of_group hfragmentUnmarked h
    rw [if_pos hidentifier]
    exact .group rfl .nil
  · rw [parameterWays, if_neg hidentifier] at h
    obtain ⟨-, rfl⟩ := h
    rw [if_neg hidentifier]
    exact .nil

/-- A way of a sequence leaves the marks of what it captures. -/
theorem exists_captures_of_ways (hplain : compiler.IsPlain depth) (hunmarked : compiler.IsUnmarked)
    {before path after : Text} {marks : List Mark} (h : s.ways compiler before path after marks) :
    ∃ captures, s.Captures compiler path captures ∧ Records (before ++ path ++ after) marks captures := by
  induction s generalizing before path after marks with
  | nil =>
    obtain ⟨rfl, rfl⟩ := h
    exact ⟨[], .nil, .nil⟩
  | literal t rest ih =>
    obtain ⟨_, path, _, marks, rfl, rfl, ⟨rfl, rfl⟩, hrest⟩ := h
    obtain ⟨captures, hcaptures, hrecords⟩ := ih hrest
    exact ⟨captures, .literal hcaptures, by simpa using hrecords⟩
  | parameter token rest ih =>
    obtain ⟨value, path, inner, marks, rfl, rfl, hvalue, hrest⟩ := h
    obtain ⟨hlanguage, hinner⟩ := records_of_parameterWays hplain hunmarked hvalue
    obtain ⟨captures, hcaptures, hrecords⟩ := ih hrest
    refine ⟨_, .parameter hlanguage hcaptures, ?_⟩
    simp only [List.append_assoc] at hinner hrecords ⊢
    exact hinner.append hrecords
  | optional body rest ihBody ihRest =>
    obtain ⟨inside, path, inner, marks, rfl, rfl, hbody, hrest⟩ := h
    obtain ⟨captures, hcaptures, hrecords⟩ := ihRest hrest
    rcases hbody with hbody | ⟨rfl, rfl⟩
    · obtain ⟨further, hfurther, hinner⟩ := ihBody hbody
      refine ⟨_, .taken hfurther hcaptures, ?_⟩
      simp only [List.append_assoc] at hinner hrecords ⊢
      exact hinner.append hrecords
    · exact ⟨captures, .skipped hcaptures, by simpa using hrecords⟩

/-- The values that a matcher gives are captured along the tree of its template. -/
theorem captures_of_values? (hplain : compiler.IsPlain depth) (hunmarked : compiler.IsUnmarked) {p : Pattern}
    (hpattern : compiler.pattern? s = .ok p) (hnodup : p.parameterNames.Nodup) {m : Matcher}
    (hm : Matcher.ofPattern? p = .ok m) {path : Text} {values : List (Text × Text)}
    (hvalues : m.values? path = some values) : s.Captures compiler path values := by
  obtain ⟨hnames, hways⟩ := ways_of_ofPattern? hplain hpattern hnodup hm
  obtain ⟨marks, hfind, rfl⟩ := Option.map_eq_some_iff.1 hvalues
  obtain ⟨captures, hcaptures, hrecords⟩ :=
    exists_captures_of_ways hplain hunmarked (ways_of_find?_of_ways_eq hways hfind)
  rw [List.nil_append, List.append_nil] at hrecords
  have hsublist : (captures.map (·.1)).Sublist p.parameterNames := by
    rw [parameterNames_of_pattern? hpattern]
    exact hcaptures.names_sublist
  -- what the groups took is looked up among the captures, and the names of the pattern find all of them
  have hgroups : (fun name => (groupText? path marks name).map fun value => (name, value)) =
      fun name => (captures.lookup name).map fun value => (name, value) := by
    funext name
    rw [hrecords.groupText?_eq_lookup (hsublist.nodup hnodup)]
  rw [hnames, hgroups, filterMap_lookup hsublist hnodup]
  exact hcaptures

/-- A path of the language of a sequence has values, if segments are not nested so deep that there is no matcher. -/
theorem exists_values? (hplain : compiler.IsPlain depth) (hunmarked : compiler.IsUnmarked) {p : Pattern}
    (hpattern : compiler.pattern? s = .ok p) (hnodup : p.parameterNames.Nodup)
    (hlimit : depth + 2 + 3 * s.depth ≤ Assembly.depthLimit) {path : Text} (hpath : path ∈ s.language compiler) :
    ∃ m values, Matcher.ofPattern? p = .ok m ∧ m.values? path = some values ∧ s.Captures compiler path values := by
  obtain ⟨d, _, hd, hmatcher⟩ := ofPattern?_of_pattern? hplain hpattern hnodup
  obtain ⟨m, hm, hmatch⟩ := hmatcher (Nat.le_trans hd hlimit)
  have hisMatch : (m.regex.find? path).isSome = true := (hmatch path).2 ((denotes_ways hplain s [] path []).2 hpath)
  obtain ⟨marks, hfind⟩ := Option.isSome_iff_exists.1 hisMatch
  have hvalues : m.values? path = some _ := Option.map_eq_some_iff.2 ⟨marks, hfind, rfl⟩
  exact ⟨m, _, hm, hvalues, captures_of_values? hplain hunmarked hpattern hnodup hm hvalues⟩

/-- No built-in fragment has a named group. -/
theorem isUnmarked_of_builtin (h : compiler.catalog = .builtin) : compiler.IsUnmarked := by
  intro token fragment r hfragment hparse
  have hmem := Catalog.mem_entries_of_fragment? hfragment
  rw [h] at hmem
  have hentries : ∀ e ∈ Catalog.builtin.table.entries, (@parse? .empty e.2).all isUnmarked = true := by decide +kernel
  have hr := hentries _ hmem
  rwa [← parse?_eq_empty (Catalog.namesProperty_of_mem_builtin _ hmem), hparse] at hr

end Compiler

/-! ## From values back to the path -/

/-- No literal text of the sequence holds a bound, and its parameters have names of their own that can name groups. -/
structure Sequence.IsRegular (g : Grammar) (s : Sequence) : Prop where
  literals : ∀ t ∈ s.literals, g.containsBound t = false
  identifiers : ∀ token ∈ s.tokens, token.isIdentifier = true
  distinct : (s.tokens.map (·.name)).Nodup

namespace Sequence

variable {g : Grammar}

namespace IsRegular

theorem of_literal {t : Text} {rest : Sequence} (h : (literal t rest).IsRegular g) :
    g.isReversed t = true ∧ rest.IsRegular g := by
  refine ⟨?_, fun u hu => h.literals u (List.mem_cons_of_mem _ hu), h.identifiers, h.distinct⟩
  rw [Grammar.isReversed, h.literals t List.mem_cons_self]
  rfl

theorem of_parameter {token : Token} {rest : Sequence} (h : (parameter token rest).IsRegular g) :
    token.isIdentifier = true ∧ token.name ∉ rest.tokens.map (·.name) ∧ rest.IsRegular g := by
  obtain ⟨hname, hdistinct⟩ := List.nodup_cons.1 h.distinct
  exact ⟨h.identifiers token List.mem_cons_self, hname, h.literals,
    fun other hother => h.identifiers other (List.mem_cons_of_mem _ hother), hdistinct⟩

theorem of_optional {body rest : Sequence} (h : (optional body rest).IsRegular g) :
    body.IsRegular g ∧ rest.IsRegular g ∧ (body.tokens.map (·.name)).Disjoint (rest.tokens.map (·.name)) := by
  have hdistinct := h.distinct
  rw [tokens, List.map_append, List.nodup_append'] at hdistinct
  refine ⟨⟨fun t ht => h.literals t (List.mem_append_left _ ht),
      fun token htoken => h.identifiers token (List.mem_append_left _ htoken), hdistinct.1⟩,
    ⟨fun t ht => h.literals t (List.mem_append_right _ ht),
      fun token htoken => h.identifiers token (List.mem_append_right _ htoken), hdistinct.2.1⟩, hdistinct.2.2⟩

theorem oneSided {s : Sequence} (h : s.IsRegular g) : s.OneSided g := by
  refine Or.inl fun t ht => Grammar.opening_not_mem_of_isReversed ?_
  rw [Grammar.isReversed, h.literals t ht]
  rfl

end IsRegular

variable {compiler : Compiler} {values : Supply} {s : Sequence} {path : Text} {captures : List (Text × Text)}

/-- A regular sequence names each group of its pattern once. -/
theorem IsRegular.nodup_parameterNames (h : s.IsRegular g) {p : Pattern} (hpattern : compiler.pattern? s = .ok p) :
    p.parameterNames.Nodup := by
  rw [Compiler.parameterNames_of_pattern? hpattern, List.filter_eq_self.2 h.identifiers]
  exact h.distinct

/-- A segment one of whose own parameters has no value is not complete. -/
theorem isComplete_eq_false_of_ownTokens {body : Sequence} (hown : body.ownTokens ≠ [])
    (hvalues : ∀ token ∈ body.tokens, values token.name = none) : body.isComplete g values = false := by
  obtain ⟨token, htoken⟩ := List.exists_mem_of_ne_nil _ hown
  have hresolves : g.resolves values token.name = false := by
    rw [Grammar.resolves, hvalues token (ownTokens_subset_tokens body htoken)]
    rfl
  rw [isComplete, Bool.and_eq_false_iff]
  exact Or.inr (List.all_eq_false.2 ⟨token, htoken, by simp [hresolves]⟩)

/-- With the values that it captured, a sequence is complete and expands to what it took. -/
theorem Captures.expand_eq [PropertyTable] (h : s.Captures compiler path captures) (hregular : s.IsRegular g)
    (hown : ∀ body ∈ s.optionals, body.ownTokens ≠ []) (hfree : ∀ c ∈ captures, g.isReversed c.2 = true)
    (hvalues : ∀ token ∈ s.tokens, values token.name = captures.lookup token.name) :
    s.isComplete g values = true ∧ s.expand g values = path := by
  induction h with
  | nil => exact ⟨rfl, rfl⟩
  | literal _ ih =>
    obtain ⟨ht, hregular⟩ := hregular.of_literal
    obtain ⟨hcomplete, hexpand⟩ := ih hregular hown hfree hvalues
    rw [isComplete_literal, expand, ht, hcomplete, hexpand]
    exact ⟨rfl, rfl⟩
  | @parameter token value path captures rest _ _ ih =>
    obtain ⟨hidentifier, hname, hregular⟩ := hregular.of_parameter
    rw [Token.captured, if_pos hidentifier, List.singleton_append] at hfree hvalues
    have hvalue : values token.name = some value := by
      rw [hvalues token List.mem_cons_self, List.lookup_cons_self]
    have hresolves : g.resolves values token.name = true :=
      Grammar.resolves_eq_true_iff.2 ⟨value, hvalue, hfree _ List.mem_cons_self⟩
    obtain ⟨hcomplete, hexpand⟩ := ih hregular hown (fun c hc => hfree c (List.mem_cons_of_mem _ hc))
      fun other hother => by
        rw [hvalues other (List.mem_cons_of_mem _ hother),
          lookup_cons_of_ne (ne_of_mem_of_not_mem (List.mem_map_of_mem hother) hname)]
    rw [isComplete_parameter, expand, hresolves, hcomplete, hvalue, hexpand]
    exact ⟨rfl, rfl⟩
  | taken hbody hrest ihBody ihRest =>
    obtain ⟨hregularBody, hregularRest, hdisjoint⟩ := hregular.of_optional
    -- the names on either side are captured on that side alone
    obtain ⟨hcompleteBody, hexpandBody⟩ := ihBody hregularBody
      (fun b hb => hown b (List.mem_cons_of_mem _ (List.mem_append_left _ hb)))
      (fun c hc => hfree c (List.mem_append_left _ hc)) fun token htoken => by
        have hnone := lookup_eq_none_of_not_mem fun h =>
          hdisjoint (List.mem_map_of_mem htoken) (hrest.names_subset h)
        rw [hvalues token (List.mem_append_left _ htoken), List.lookup_append, hnone, Option.or_none]
    obtain ⟨hcompleteRest, hexpandRest⟩ := ihRest hregularRest
      (fun b hb => hown b (List.mem_cons_of_mem _ (List.mem_append_right _ hb)))
      (fun c hc => hfree c (List.mem_append_right _ hc)) fun token htoken => by
        have hnone := lookup_eq_none_of_not_mem fun h =>
          hdisjoint (hbody.names_subset h) (List.mem_map_of_mem htoken)
        rw [hvalues token (List.mem_append_right _ htoken), List.lookup_append, hnone, Option.none_or]
    rw [isComplete_optional, expand, if_pos hcompleteBody, hexpandBody, hexpandRest]
    exact ⟨hcompleteRest, rfl⟩
  | @skipped path captures body rest hrest ih =>
    obtain ⟨_, hregularRest, hdisjoint⟩ := hregular.of_optional
    obtain ⟨hcompleteRest, hexpandRest⟩ := ih hregularRest
      (fun b hb => hown b (List.mem_cons_of_mem _ (List.mem_append_right _ hb))) hfree
      fun token htoken => hvalues token (List.mem_append_right _ htoken)
    have hbody : body.isComplete g values = false := by
      refine isComplete_eq_false_of_ownTokens (hown body List.mem_cons_self) fun token htoken => ?_
      rw [hvalues token (List.mem_append_left _ htoken)]
      exact lookup_eq_none_of_not_mem fun h => hdisjoint (List.mem_map_of_mem htoken) (hrest.names_subset h)
    rw [isComplete_optional, expand, hbody, hexpandRest]
    exact ⟨hcompleteRest, rfl⟩

end Sequence

/-- Reversing a template with the values that its matcher gives for a path comes to the path. -/
theorem reverse_of_match [PropertyTable] (compiler : Compiler) (source path : Text) (template : Template) (p : Pattern)
    (m : Matcher) (values : List (Text × Text)) (hcatalog : compiler.catalog = .builtin)
    (hparse : Template.parse? compiler.grammar source = .ok template) (hcompile : compiler.compile source = .ok p)
    (hm : Matcher.ofPattern? p = .ok m) (hregular : template.segments.IsRegular compiler.grammar)
    (hown : ∀ body ∈ template.segments.optionals, body.ownTokens ≠ []) (hvalues : m.values? path = some values)
    (hfree : ∀ pair ∈ values, compiler.grammar.containsBound pair.2 = false) :
    compiler.grammar.reverse source (.ofPairs values) = .ok path := by
  have hpattern : compiler.pattern? template.segments = .ok p := by
    rw [Compiler.compile, hparse] at hcompile
    exact hcompile
  have hcaptures := Compiler.captures_of_values? (Compiler.isPlain_of_builtin hcatalog)
    (Compiler.isUnmarked_of_builtin hcatalog) hpattern (hregular.nodup_parameterNames hpattern) hm hvalues
  have hreversed : ∀ pair ∈ values, compiler.grammar.isReversed pair.2 = true := by
    intro pair hpair
    rw [Grammar.isReversed, hfree pair hpair]
    rfl
  have hsupplied : ∀ token ∈ template.segments.tokens, Supply.ofPairs values token.name = values.lookup token.name :=
    fun _ _ => rfl
  obtain ⟨hcomplete, hexpand⟩ := hcaptures.expand_eq hregular hown hreversed hsupplied
  rw [Grammar.reverse_eq_ite _ hparse hregular.oneSided, ← hexpand]
  exact if_pos hcomplete

/-- A match may give all of `q/7` to the first parameter or a part of it to the second. Either way the path comes
back. -/
theorem reverse_of_match_ambiguous :
    ∃ p m values, Compiler.standard.compile "/x/{a:any}[/{b:digits}]".toList = .ok p ∧ Matcher.ofPattern? p = .ok m ∧
      m.values? "/x/q/7".toList = some values ∧
      Grammar.standard.reverse "/x/{a:any}[/{b:digits}]".toList (.ofPairs values) = .ok "/x/q/7".toList := by
  let source : Text := "/x/{a:any}[/{b:digits}]".toList
  let first : Token := ⟨"a".toList, some "any".toList, "{a:any}".toList⟩
  let second : Token := ⟨"b".toList, some "digits".toList, "{b:digits}".toList⟩
  let body : Sequence := .literal ['/'] (.parameter second .nil)
  let segments : Sequence := .literal "/x/".toList (.parameter first (.optional body .nil))
  have hparse : Template.parse? .standard source = .ok ⟨source, .standard, segments⟩ := by decide +kernel
  obtain ⟨p, hpattern⟩ : ∃ p, Compiler.standard.pattern? segments = .ok p := by
    refine Compiler.exists_pattern? fun token htoken => ?_
    rcases List.mem_cons.1 htoken with rfl | htoken
    · exact ⟨".+".toList, by decide +kernel⟩
    · obtain rfl := List.mem_singleton.1 htoken
      exact ⟨"\\d+".toList, by decide +kernel⟩
  have hcompile : Compiler.standard.compile source = .ok p := bind_eq_ok_iff.2 ⟨_, hparse, hpattern⟩
  have hregular : segments.IsRegular .standard := ⟨by decide, by decide, by decide⟩
  have hfirst : ['q'] ∈ Compiler.standard.parameterLanguage first := by
    have hany : parse? ".+".toList = some (.repeated (.set (CharSet.single '\n').compl) 1 none true) := by
      decide +kernel
    rw [Compiler.parameterLanguage, if_pos (by decide)]
    exact ⟨".+".toList, by decide +kernel, matchesInFull_of_repeated_set hany (by decide +kernel)⟩
  have hsecond : ['7'] ∈ Compiler.standard.parameterLanguage second := by
    have hdigits : parse? "\\d+".toList = some (.repeated (.set CharSet.decimals) 1 none true) := by decide +kernel
    rw [Compiler.parameterLanguage, if_pos (by decide)]
    exact ⟨"\\d+".toList, by decide +kernel, matchesInFull_of_repeated_set hdigits (by decide +kernel)⟩
  have hbody : "/7".toList ∈ body.language .standard :=
    Language.mem_mul.2 ⟨['/'], rfl, ['7'], Language.mem_mul.2 ⟨['7'], hsecond, [], rfl, rfl⟩, rfl⟩
  have hpath : "/x/q/7".toList ∈ segments.language .standard :=
    Language.mem_mul.2 ⟨"/x/".toList, rfl, "q/7".toList, Language.mem_mul.2 ⟨['q'], hfirst, "/7".toList,
      Language.mem_mul.2 ⟨"/7".toList, Or.inl hbody, [], rfl, rfl⟩, rfl⟩, rfl⟩
  obtain ⟨m, values, hm, hvalues, hcaptures⟩ := Compiler.exists_values? (Compiler.isPlain_of_builtin rfl)
    (Compiler.isUnmarked_of_builtin rfl) hpattern (hregular.nodup_parameterNames hpattern) (by decide) hpath
  refine ⟨p, m, values, hcompile, hm, hvalues, ?_⟩
  refine reverse_of_match .standard source _ _ p m values rfl hparse hcompile hm hregular (by decide) hvalues ?_
  -- no bound is in the path, so none is in a part of it
  have hfree : Grammar.standard.containsBound "/x/q/7".toList = false := by decide
  intro pair hpair
  exact List.any_eq_false.2 fun c hc => List.any_eq_false.1 hfree c (hcaptures.value_subset pair hpair hc)

end PathTemplate
