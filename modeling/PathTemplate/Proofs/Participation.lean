/-
# PathTemplate.Proofs.Participation — which parameters have values after a match.

Whether a parameter has a value is decided by the segments around it: it has one if all of them take part. What a match
does with two neighbours that could both take a text is not known beforehand, but it takes each segment whole or leaves
it whole. So the parameters that stand in one segment have values together or not at all, and where those of an inner
segment have values, those of every segment around it do.

Two parameters cannot be confused here, because a pattern in which two groups have one name is not valid.
-/
import PathTemplate.Proofs.Extraction

namespace PathTemplate

namespace Sequence

/-! ## Names that can be captured -/

/-- The names of the parameters that are captured where they take part, in document order. -/
def captureNames (s : Sequence) : List Text := (s.tokens.filter (·.isIdentifier)).map (·.name)

/-- Those of the parameters that stand in the sequence itself, outside its optional segments. -/
def ownCaptureNames (s : Sequence) : List Text := (s.ownTokens.filter (·.isIdentifier)).map (·.name)

theorem captureNames_subset_of_tokens_subset {r s : Sequence} (h : r.tokens ⊆ s.tokens) :
    r.captureNames ⊆ s.captureNames :=
  List.map_subset _ (List.filter_subset _ h)

theorem ownCaptureNames_subset_captureNames (s : Sequence) : s.ownCaptureNames ⊆ s.captureNames :=
  List.map_subset _ (List.filter_subset _ s.ownTokens_subset_tokens)

theorem captureNames_optional (body rest : Sequence) :
    (optional body rest).captureNames = body.captureNames ++ rest.captureNames := by
  rw [captureNames, tokens, List.filter_append, List.map_append]
  rfl

/-- The parameters of a segment are parameters of the sequence that the segment is in. -/
theorem captureNames_subset_of_mem_optionals {s body : Sequence} (h : body ∈ s.optionals) :
    body.captureNames ⊆ s.captureNames := by
  refine captureNames_subset_of_tokens_subset ?_
  induction s with
  | nil => cases h
  | literal t rest ih => exact ih h
  | parameter token rest ih => exact List.subset_cons_of_subset _ (ih h)
  | optional inner rest ihInner ihRest =>
    rcases List.mem_cons.1 h with rfl | h
    · exact List.subset_append_left _ _
    · rcases List.mem_append.1 h with h | h
      · exact List.subset_append_of_subset_left _ (ihInner h)
      · exact List.subset_append_of_subset_right _ (ihRest h)

/-! ## Captures by segments -/

namespace Captures

variable [Regex.PropertyTable] {compiler : Compiler} {s : Sequence} {path : Text} {captures : List (Text × Text)}

theorem names_subset_captureNames (h : s.Captures compiler path captures) : captures.map (·.1) ⊆ s.captureNames :=
  h.names_sublist.subset

/-- The parameters that stand in the sequence itself are captured. -/
theorem ownCaptureNames_subset (h : s.Captures compiler path captures) :
    s.ownCaptureNames ⊆ captures.map (·.1) := by
  induction h with
  | nil => exact List.Subset.refl _
  | literal _ ih => exact ih
  | @parameter token value path captures rest _ _ ih =>
    rw [ownCaptureNames, ownTokens, Token.captured]
    by_cases hidentifier : token.isIdentifier = true
    · rw [List.filter_cons_of_pos hidentifier, if_pos hidentifier]
      exact List.cons_subset_cons _ ih
    · rw [List.filter_cons_of_neg hidentifier, if_neg hidentifier]
      exact ih
  | taken _ _ _ ihRest =>
    rw [List.map_append]
    exact List.subset_append_of_subset_right _ ihRest
  | skipped _ ih => exact ih

/-- A segment took part, and then its own parameters are captured; or it took no part, and then nothing inside it is
captured. -/
theorem takesPart (h : s.Captures compiler path captures) (hnodup : s.captureNames.Nodup) :
    ∀ body ∈ s.optionals, body.ownCaptureNames ⊆ captures.map (·.1) ∨
      body.captureNames.Disjoint (captures.map (·.1)) := by
  induction h with
  | nil => simp [optionals]
  | literal _ ih => exact ih hnodup
  | @parameter token value path captures rest _ _ ih =>
    intro body hbody
    rw [captureNames, tokens] at hnodup
    rw [Token.captured]
    by_cases hidentifier : token.isIdentifier = true
    · rw [List.filter_cons_of_pos hidentifier, List.map_cons, List.nodup_cons] at hnodup
      rw [if_pos hidentifier]
      have hsubset : body.captureNames ⊆ rest.captureNames := captureNames_subset_of_mem_optionals hbody
      refine (ih hnodup.2 body hbody).imp (List.subset_cons_of_subset _) fun hnone => ?_
      -- the name of the parameter is not one of those behind it
      exact List.disjoint_cons_right.2 ⟨fun hname => hnodup.1 (hsubset hname), hnone⟩
    · rw [List.filter_cons_of_neg hidentifier] at hnodup
      rw [if_neg hidentifier]
      exact ih hnodup body hbody
  | @taken inside path inner captures body rest hinner hrest ihInner ihRest =>
    rw [captureNames_optional, List.nodup_append'] at hnodup
    obtain ⟨hnodupBody, hnodupRest, hdisjoint⟩ := hnodup
    have hinnerNames := hinner.names_subset_captureNames
    have hrestNames := hrest.names_subset_captureNames
    intro segment hsegment
    rw [List.map_append, List.disjoint_append_right]
    rcases List.mem_cons.1 hsegment with rfl | hsegment
    · exact Or.inl (List.subset_append_of_subset_left _ hinner.ownCaptureNames_subset)
    · rcases List.mem_append.1 hsegment with hsegment | hsegment
      · have hsubset := captureNames_subset_of_mem_optionals hsegment
        refine (ihInner hnodupBody segment hsegment).imp (List.subset_append_of_subset_left _) fun hnone => ⟨hnone, ?_⟩
        exact fun _ hname hcaptured => hdisjoint (hsubset hname) (hrestNames hcaptured)
      · have hsubset := captureNames_subset_of_mem_optionals hsegment
        refine (ihRest hnodupRest segment hsegment).imp (List.subset_append_of_subset_right _) fun hnone => ⟨?_, hnone⟩
        exact fun _ hname hcaptured => hdisjoint (hinnerNames hcaptured) (hsubset hname)
  | @skipped path captures body rest hrest ih =>
    rw [captureNames_optional, List.nodup_append'] at hnodup
    obtain ⟨-, hnodupRest, hdisjoint⟩ := hnodup
    have hbody : body.captureNames.Disjoint (captures.map (·.1)) :=
      fun _ hname hcaptured => hdisjoint hname (hrest.names_subset_captureNames hcaptured)
    intro segment hsegment
    rcases List.mem_cons.1 hsegment with rfl | hsegment
    · exact Or.inr hbody
    · rcases List.mem_append.1 hsegment with hsegment | hsegment
      · exact Or.inr fun _ hname => hbody (captureNames_subset_of_mem_optionals hsegment hname)
      · exact ih hnodupRest segment hsegment

/-- Every value is a text of the fragment of a parameter that has the name. -/
theorem exists_token (h : s.Captures compiler path captures) : ∀ c ∈ captures,
    ∃ token ∈ s.tokens, token.isIdentifier = true ∧ token.name = c.1 ∧ c.2 ∈ compiler.fragmentLanguage token := by
  induction h with
  | nil => simp
  | literal _ ih => exact ih
  | @parameter token value path captures rest hvalue _ ih =>
    intro c hc
    rcases List.mem_append.1 hc with hc | hc
    · rw [Token.captured] at hc
      split at hc
      · rename_i hidentifier
        obtain rfl := List.mem_singleton.1 hc
        rw [Compiler.parameterLanguage, if_pos hidentifier] at hvalue
        exact ⟨token, List.mem_cons_self, hidentifier, rfl, hvalue⟩
      · cases hc
    · obtain ⟨other, hother, htext⟩ := ih c hc
      exact ⟨other, List.mem_cons_of_mem _ hother, htext⟩
  | taken _ _ ihInner ihRest =>
    intro c hc
    rcases List.mem_append.1 hc with hc | hc
    · obtain ⟨token, htoken, htext⟩ := ihInner c hc
      exact ⟨token, List.mem_append_left _ htoken, htext⟩
    · obtain ⟨token, htoken, htext⟩ := ihRest c hc
      exact ⟨token, List.mem_append_right _ htoken, htext⟩
  | skipped _ ih =>
    intro c hc
    obtain ⟨token, htoken, htext⟩ := ih c hc
    exact ⟨token, List.mem_append_right _ htoken, htext⟩

/-- Where no two parameters have one name, a value is a text of the fragment of the parameter that has the name. -/
theorem value_mem_fragmentLanguage (h : s.Captures compiler path captures) (hnodup : s.captureNames.Nodup)
    {token : Token} (htoken : token ∈ s.tokens) (hidentifier : token.isIdentifier = true) {value : Text}
    (hvalue : (token.name, value) ∈ captures) : value ∈ compiler.fragmentLanguage token := by
  obtain ⟨other, hother, hother', hname, htext⟩ := h.exists_token _ hvalue
  obtain rfl := List.inj_on_of_nodup_map hnodup (List.mem_filter.2 ⟨hother, hother'⟩)
    (List.mem_filter.2 ⟨htoken, hidentifier⟩) hname
  exact htext

end Captures

end Sequence

/-! ## Values by segments -/

/-- After a match with built-in types, only parameters whose names can name groups have values, and all those outside
every segment have. Those that stand in one segment have values together or not at all, and where one has a value, so
have those of every segment around. Each value is matched in full by the fragment of its parameter. -/
theorem participation_of_match [Regex.PropertyTable] (compiler : Compiler) (source path : Text) (template : Template)
    (p : Pattern) (m : Matcher) (values : List (Text × Text)) (hcatalog : compiler.catalog = .builtin)
    (hparse : Template.parse? compiler.grammar source = .ok template) (hcompile : compiler.compile source = .ok p)
    (hm : Matcher.ofPattern? p = .ok m) (hvalues : m.values? path = some values) :
    values.map (·.1) ⊆ template.segments.captureNames ∧
    template.segments.ownCaptureNames ⊆ values.map (·.1) ∧
    (∀ body ∈ template.segments.optionals,
      body.ownCaptureNames ⊆ values.map (·.1) ∨ body.ownCaptureNames.Disjoint (values.map (·.1))) ∧
    (∀ outer ∈ template.segments.optionals, ∀ inner ∈ outer.optionals,
      ¬ inner.ownCaptureNames.Disjoint (values.map (·.1)) → outer.ownCaptureNames ⊆ values.map (·.1)) ∧
    ∀ token ∈ template.segments.tokens, token.isIdentifier = true → ∀ value, (token.name, value) ∈ values →
      ∃ fragment, compiler.fragment? token = .ok fragment ∧ Regex.MatchesInFull fragment value := by
  have hpattern : compiler.pattern? template.segments = .ok p := by
    rw [Compiler.compile, hparse] at hcompile
    exact hcompile
  have hplain := Compiler.isPlain_of_builtin hcatalog
  have hnodup := Compiler.nodup_of_ofPattern? (hplain.fits _) hpattern hm
  have hcaptures := Compiler.captures_of_values? hplain (Compiler.isUnmarked_of_builtin hcatalog) hpattern hnodup hm
    hvalues
  rw [Compiler.parameterNames_of_pattern? hpattern] at hnodup
  have htakesPart := hcaptures.takesPart hnodup
  refine ⟨hcaptures.names_subset_captureNames, hcaptures.ownCaptureNames_subset, ?together, ?around, ?fragment⟩
  case together =>
    intro body hbody
    refine (htakesPart body hbody).imp_right fun hnone => ?_
    exact List.disjoint_of_subset_left body.ownCaptureNames_subset_captureNames hnone
  case around =>
    intro outer houter inner hinner hsome
    refine (htakesPart outer houter).resolve_right fun hnone => hsome ?_
    -- what stands in the inner segment is inside the outer one
    exact List.disjoint_of_subset_left (List.Subset.trans inner.ownCaptureNames_subset_captureNames
      (Sequence.captureNames_subset_of_mem_optionals hinner)) hnone
  case fragment =>
    intro token htoken hidentifier value hvalue
    exact hcaptures.value_mem_fragmentLanguage hnodup htoken hidentifier hvalue

/-- The first parameter may take the rest of the path and leave nothing to the segments, or the segments may take part.
It has a value either way, and the one in the inner segment has none without the one in the outer segment. -/
theorem participation_of_match_nested :
    ∃ p m values, Compiler.standard.compile "/x/{a:any}[/{b:digits}[-{c:digits}]]".toList = .ok p ∧
      Matcher.ofPattern? p = .ok m ∧ m.values? "/x/q/7-8".toList = some values ∧
      "a".toList ∈ values.map (·.1) ∧ ("c".toList ∈ values.map (·.1) → "b".toList ∈ values.map (·.1)) := by
  let source : Text := "/x/{a:any}[/{b:digits}[-{c:digits}]]".toList
  let first : Token := ⟨"a".toList, some "any".toList, "{a:any}".toList⟩
  let second : Token := ⟨"b".toList, some "digits".toList, "{b:digits}".toList⟩
  let third : Token := ⟨"c".toList, some "digits".toList, "{c:digits}".toList⟩
  let inner : Sequence := .literal ['-'] (.parameter third .nil)
  let outer : Sequence := .literal ['/'] (.parameter second (.optional inner .nil))
  let segments : Sequence := .literal "/x/".toList (.parameter first (.optional outer .nil))
  have hparse : Template.parse? .standard source = .ok ⟨source, .standard, segments⟩ := by decide +kernel
  have hdigits : Regex.parse? "\\d+".toList = some (.repeated (.set Regex.CharSet.decimals) 1 none true) := by
    decide +kernel
  have hany : Regex.parse? ".+".toList = some (.repeated (.set (Regex.CharSet.single '\n').compl) 1 none true) := by
    decide +kernel
  have hfirst : Compiler.standard.fragment? first = .ok ".+".toList := by decide +kernel
  have hsecond : Compiler.standard.fragment? second = .ok "\\d+".toList := by decide +kernel
  have hthird : Compiler.standard.fragment? third = .ok "\\d+".toList := by decide +kernel
  obtain ⟨p, hpattern⟩ : ∃ p, Compiler.standard.pattern? segments = .ok p :=
    Compiler.exists_pattern? (by simp [segments, outer, inner, Sequence.tokens, hfirst, hsecond, hthird])
  have hcompile : Compiler.standard.compile source = .ok p := bind_eq_ok_iff.2 ⟨_, hparse, hpattern⟩
  have hnodup : p.parameterNames.Nodup := by
    rw [Compiler.parameterNames_of_pattern? hpattern]
    decide
  have ha : ['q'] ∈ Compiler.standard.parameterLanguage first :=
    Compiler.mem_parameterLanguage_of_repeated_set (by decide) hfirst hany (by decide +kernel)
  have hb : ['7'] ∈ Compiler.standard.parameterLanguage second :=
    Compiler.mem_parameterLanguage_of_repeated_set (by decide) hsecond hdigits (by decide +kernel)
  have hc : ['8'] ∈ Compiler.standard.parameterLanguage third :=
    Compiler.mem_parameterLanguage_of_repeated_set (by decide) hthird hdigits (by decide +kernel)
  have hinner : "-8".toList ∈ inner.language .standard :=
    Language.mem_mul.2 ⟨['-'], rfl, ['8'], Language.mem_mul.2 ⟨['8'], hc, [], rfl, rfl⟩, rfl⟩
  have houter : "/7-8".toList ∈ outer.language .standard :=
    Language.mem_mul.2 ⟨['/'], rfl, "7-8".toList, Language.mem_mul.2 ⟨['7'], hb, "-8".toList,
      Language.mem_mul.2 ⟨"-8".toList, Or.inl hinner, [], rfl, rfl⟩, rfl⟩, rfl⟩
  have hpath : "/x/q/7-8".toList ∈ segments.language .standard :=
    Language.mem_mul.2 ⟨"/x/".toList, rfl, "q/7-8".toList, Language.mem_mul.2 ⟨['q'], ha, "/7-8".toList,
      Language.mem_mul.2 ⟨"/7-8".toList, Or.inl houter, [], rfl, rfl⟩, rfl⟩, rfl⟩
  obtain ⟨m, values, hm, hvalues, -⟩ := Compiler.exists_values? (Compiler.isPlain_of_builtin rfl)
    (Compiler.isUnmarked_of_builtin rfl) hpattern hnodup (by decide) hpath
  obtain ⟨-, hown, -, haround, -⟩ :=
    participation_of_match .standard source _ _ p m values rfl hparse hcompile hm hvalues
  refine ⟨p, m, values, hcompile, hm, hvalues, hown (by decide), fun hmem => ?_⟩
  exact haround outer (by decide) inner (by decide) (fun hnone => hnone (by decide) hmem) (by decide)

end PathTemplate
