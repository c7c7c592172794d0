/-
# PathTemplate.Proofs.Compilation — the matcher of a template matches in the ways of its tree.

The ways of a sequence follow the tree: literal text is taken as it is, a parameter in the ways of its fragment
taken alone, and an optional segment or nothing. Nothing is said of patterns. That the pattern of the sequence
is cut into lexemes that add items with just these ways goes by induction on the tree; so the matcher, where the
nesting allows one, matches a path in the ways of the tree.
-/
import PathTemplate.Matcher
import PathTemplate.Proofs.Joining
import PathTemplate.Proofs.Regex.Building
import PathTemplate.Proofs.Regex.Naming

namespace PathTemplate

open Regex

variable [PropertyTable]

/-! ## The ways of a tree -/

/-- The ways of a pattern that is taken alone. -/
def Regex.patternWays (pattern : Text) : Ways := fun before taken after marks =>
  ∃ r, parse? pattern = some r ∧ r.ways before taken after marks

theorem Regex.patternWays_of_parse? {pattern : Text} {r : Regex} (h : parse? pattern = some r) :
    patternWays pattern = r.ways := by
  apply Ways.ext
  intro before taken after marks
  constructor
  · rintro ⟨r', hparse, hways⟩
    obtain rfl := Option.some.inj (h.symm.trans hparse)
    exact hways
  · intro hways
    exact ⟨r, h, hways⟩

/-- The ways of a parameter: those of its fragment, under its name, if the name is an identifier; otherwise only
the text that it was written as. -/
def Compiler.parameterWays (compiler : Compiler) (token : Token) : Ways :=
  if token.isIdentifier then
    .group token.name fun before taken after marks =>
      ∃ fragment, compiler.fragment? token = .ok fragment ∧ patternWays fragment before taken after marks
  else .text token.raw

namespace Sequence

/-- The ways of a sequence. -/
def ways (compiler : Compiler) : Sequence → Ways
  | nil => .nothing
  | literal t rest => (Ways.text t).andThen (rest.ways compiler)
  | parameter token rest => (compiler.parameterWays token).andThen (rest.ways compiler)
  | optional body rest => ((body.ways compiler).either .nothing).andThen (rest.ways compiler)

end Sequence

/-! ## Matchers -/

namespace Matcher

variable {admits : Regex → Bool} {p : Pattern} {m : Matcher}

/-- An engine makes a matcher of a valid pattern whose expression it admits. -/
theorem ofPatternWithin?_eq_ok_iff : ofPatternWithin? admits p = .ok m ↔
    ∃ r, parse? p.anchored = some r ∧ admits r = true ∧ m = ⟨r, p.parameterNames⟩ := by
  constructor
  · intro h
    rw [ofPatternWithin?] at h
    split at h
    · rename_i r hparse
      split at h
      · rename_i hadmits
        exact ⟨r, hparse, hadmits, (Except.ok.inj h).symm⟩
      · cases h
    · cases h
  · rintro ⟨r, hparse, hadmits, rfl⟩
    simp only [ofPatternWithin?, hparse, if_pos hadmits]

theorem ofPattern?_eq_ok_iff : ofPattern? p = .ok m ↔
    ∃ r, parse? p.anchored = some r ∧ m = ⟨r, p.parameterNames⟩ := by
  simp [ofPattern?, ofPatternWithin?_eq_ok_iff]

theorem ofPattern?_of_parse?_eq_none (h : parse? p.anchored = none) : ofPattern? p = .error .invalidPattern := by
  rw [ofPattern?, ofPatternWithin?, h]

/-- What an engine with a limit makes is what an engine without one would make. -/
theorem ofPattern?_of_ofPatternWithin? (h : ofPatternWithin? admits p = .ok m) : ofPattern? p = .ok m := by
  obtain ⟨r, hparse, -, rfl⟩ := ofPatternWithin?_eq_ok_iff.1 h
  exact ofPattern?_eq_ok_iff.2 ⟨r, hparse, rfl⟩

end Matcher

/-! ## Patterns that are put together -/

/-- The pattern is cut into lexemes that open the groups of its parameters and add items that match in the ways. -/
def Pattern.Builds (p : Pattern) (W : Ways) (depth : Nat) : Prop :=
  ∃ lexemes, Spells p.text lexemes ∧ groupNames lexemes = p.parameterNames ∧
    Assembly.Adds lexemes p.parameterNames W depth

namespace Pattern.Builds

variable {p q : Pattern} {V W : Ways} {depth depth' : Nat}

theorem empty (depth : Nat) : Pattern.empty.Builds .nothing depth := ⟨[], .nil, rfl, .nil _⟩

theorem mono (h : p.Builds W depth) (hle : depth ≤ depth') : p.Builds W depth' := by
  obtain ⟨lexemes, hspells, hnames, hadds⟩ := h
  exact ⟨lexemes, hspells, hnames, hadds.mono hle⟩

theorem append (hp : p.Builds V depth) (hq : q.Builds W depth) : (p ++ q).Builds (V.andThen W) depth := by
  obtain ⟨ls, hspells, hnames, hadds⟩ := hp
  obtain ⟨ms, hspells', hnames', hadds'⟩ := hq
  refine ⟨ls ++ ms, hspells.append hspells', ?_, hadds.append hadds'⟩
  rw [groupNames_append, hnames, hnames']
  rfl

/-- Text that is escaped. -/
theorem escape (t : Text) (depth : Nat) : (Pattern.ofText (Pattern.escape t)).Builds (.text t) depth :=
  ⟨t.map .char, .escape t, groupNames_chars t, .chars t depth⟩

/-- A pattern that can stand in a group, in the group of a parameter. -/
theorem namedGroup {name fragment : Text} {r : Regex} (hname : name.isIdentifier = true)
    (hparse : parse? fragment = some r) (hnone : namesNoGroup fragment = true) (hclosed : endsInComment fragment = false)
    (hdepth : ∀ d, nesting? fragment = some d → d ≤ depth) :
    (Pattern.ofGroup name fragment).Builds (.group name r.ways) (depth + 1) := by
  -- alone the fragment has lexemes and an expression; in its group it keeps both
  obtain ⟨ls, a, hread, hunnamed, hrun, houter, rfl, hnesting⟩ := exists_lexemes_of_parse? hnone hparse
  obtain ⟨mode, hmode, hencloses⟩ := encloses_of_endsInComment hread hrun houter hclosed
  refine ⟨_, .namedGroup hname hencloses hmode, ?names, ?adds⟩
  case names =>
    rw [groupNames_cons, groupNames_append, groupNames_of_isUnnamed hunnamed]
    rfl
  case adds => exact (Assembly.Adds.namedGroup houter hunnamed hrun name).mono (Nat.succ_le_succ (hdepth _ hnesting))

/-- What may be left out is three levels deeper: its group, its repetition and the chain in it. -/
theorem optional (h : p.Builds W depth) : p.optional.Builds (W.either .nothing) (depth + 3) := by
  obtain ⟨lexemes, hspells, hnames, hadds⟩ := h
  rw [← Pattern.parameterNames_optional] at hnames hadds
  refine ⟨_, hspells.optional, ?_, hadds.optional⟩
  rw [groupNames_cons, groupNames_append, hnames]
  exact List.append_nil _

end Pattern.Builds

namespace Compiler

variable {compiler : Compiler} {s : Sequence} {p : Pattern} {depth : Nat}

theorem parameterWays_of_parse? {token : Token} {fragment : Text} {r : Regex} (hidentifier : token.isIdentifier = true)
    (hfragment : compiler.fragment? token = .ok fragment) (hparse : parse? fragment = some r) :
    compiler.parameterWays token = .group token.name r.ways := by
  have hways : (fun before taken after marks => ∃ fragment, compiler.fragment? token = .ok fragment ∧
      patternWays fragment before taken after marks) = r.ways := by
    rw [← patternWays_of_parse? hparse]
    apply Ways.ext
    intro before taken after marks
    simp [hfragment]
  rw [parameterWays, if_pos hidentifier, hways]

/-! ## From patterns to ways -/

/-- The fragments that the compiler may use are plain, valid by themselves, and not nested too deep. -/
def IsPlain (compiler : Compiler) (depth : Nat) : Prop :=
  ∀ token fragment, compiler.fragment? token = .ok fragment →
    isPlain fragment = true ∧ isValid fragment = true ∧ ∀ d, nesting? fragment = some d → d ≤ depth

/-- The fragments of the parameters of the sequence can stand in groups: they are valid by themselves, name no group, do
not end in a comment, and are not nested too deep. -/
def Fits (compiler : Compiler) (s : Sequence) (depth : Nat) : Prop :=
  ∀ token ∈ s.tokens, token.isIdentifier = true → ∀ fragment, compiler.fragment? token = .ok fragment →
    isValid fragment = true ∧ namesNoGroup fragment = true ∧ endsInComment fragment = false ∧
      ∀ d, nesting? fragment = some d → d ≤ depth

theorem IsPlain.fits (h : compiler.IsPlain depth) (s : Sequence) : compiler.Fits s depth := by
  intro token _ _ fragment hfragment
  obtain ⟨hplain, hvalid, hdepth⟩ := h token fragment hfragment
  obtain ⟨r, hparse⟩ := Option.isSome_iff_exists.1 hvalid
  exact ⟨hvalid, namesNoGroup_of_isPlain hplain, endsInComment_of_isPlain hplain hparse, hdepth⟩

theorem Fits.of_parameter {token : Token} {rest : Sequence} (h : compiler.Fits (.parameter token rest) depth) :
    compiler.Fits rest depth :=
  fun other hother => h other (List.mem_cons_of_mem _ hother)

theorem Fits.of_optional {body rest : Sequence} (h : compiler.Fits (.optional body rest) depth) :
    compiler.Fits body depth ∧ compiler.Fits rest depth :=
  ⟨fun token htoken => h token (List.mem_append_left _ htoken),
    fun token htoken => h token (List.mem_append_right _ htoken)⟩

/-- The pattern of a parameter matches in the ways of the parameter. -/
theorem builds_of_parameterPattern? {token : Token} {rest : Sequence}
    (hfits : compiler.Fits (.parameter token rest) depth) (h : compiler.parameterPattern? token = .ok p) :
    p.Builds (compiler.parameterWays token) (depth + 1) := by
  rw [parameterPattern?] at h
  by_cases hidentifier : token.isIdentifier = true
  · rw [if_pos hidentifier] at h
    obtain ⟨fragment, hfragment, rfl⟩ := map_eq_ok_iff.1 h
    obtain ⟨hvalid, hnone, hclosed, hdepth⟩ := hfits token List.mem_cons_self hidentifier fragment hfragment
    obtain ⟨r, hparse⟩ := Option.isSome_iff_exists.1 hvalid
    rw [parameterWays_of_parse? hidentifier hfragment hparse]
    exact .namedGroup hidentifier hparse hnone hclosed hdepth
  · rw [if_neg hidentifier] at h
    obtain rfl := Except.ok.inj h
    rw [parameterWays, if_neg hidentifier]
    exact .escape token.raw _

/-- The pattern of a sequence matches in the ways of the sequence. -/
theorem builds_of_pattern? (hfits : compiler.Fits s depth) (h : compiler.pattern? s = .ok p) :
    p.Builds (s.ways compiler) (depth + 1 + 3 * s.depth) := by
  refine pattern?_induction
    (motive := fun s p => compiler.Fits s depth → p.Builds (s.ways compiler) (depth + 1 + 3 * s.depth))
    ?nil ?literal ?parameter ?optional h hfits
  case nil => exact fun _ => .empty _
  case literal => exact fun t rest q ih hfits => (Pattern.Builds.escape t _).append (ih hfits)
  case parameter =>
    intro token rest own q hown ih hfits
    have hle : depth + 1 ≤ depth + 1 + 3 * rest.depth := Nat.le_add_right _ _
    exact ((builds_of_parameterPattern? hfits hown).mono hle).append (ih hfits.of_parameter)
  case optional =>
    intro body rest inner q ihBody ihRest hfits
    obtain ⟨hfitsBody, hfitsRest⟩ := hfits.of_optional
    have hbody : body.depth + 1 ≤ (body.optional rest).depth := Nat.le_max_left _ _
    have hrest : rest.depth ≤ (body.optional rest).depth := Nat.le_max_right _ _
    exact ((ihBody hfitsBody).optional.mono (by omega)).append ((ihRest hfitsRest).mono (by omega))

/-- The anchored pattern of a sequence is assembled to an expression that takes whole texts in the ways of the
sequence. -/
theorem exists_assembly_of_pattern? (hfits : compiler.Fits s depth) (h : compiler.pattern? s = .ok p)
    (hnodup : p.parameterNames.Nodup) :
    ∃ a, assemble? p.anchored = some a ∧ a.outer = [] ∧ a.frame.body.depth ≤ depth + 2 + 3 * s.depth ∧
      a.frame.body.expr.ways = (Ways.anchor .textStart).andThen ((s.ways compiler).andThen (Ways.anchor .textEnd)) := by
  obtain ⟨lexemes, hspells, -, hadds⟩ := builds_of_pattern? hfits h
  have hanchored := (Assembly.Adds.caret _).append (hadds.append (Assembly.Adds.dollar _))
  rw [List.append_nil] at hanchored
  obtain ⟨a, hassemble, houter, hways, hdepth⟩ := hanchored.assemble?_of_cuts hspells.anchored hnodup
  exact ⟨a, hassemble, houter, by omega, hways⟩

/-- There is no matcher of a sequence in which two parameters would have the same group. -/
theorem nodup_of_ofPattern? (hfits : compiler.Fits s depth) (h : compiler.pattern? s = .ok p) {m : Matcher}
    (hm : Matcher.ofPattern? p = .ok m) : p.parameterNames.Nodup := by
  obtain ⟨lexemes, hspells, hnames, -⟩ := builds_of_pattern? hfits h
  obtain ⟨r, hparse, -⟩ := Matcher.ofPattern?_eq_ok_iff.1 hm
  have hvalid : isValid p.anchored = true := Option.isSome_iff_exists.2 ⟨r, hparse⟩
  have hnodup := nodup_groupNames_of_isValid hspells.anchored.lexemes?_eq hvalid
  have hwhole : groupNames (.caret :: (lexemes ++ [.dollar])) = p.parameterNames := by
    rw [groupNames_cons, groupNames_append, hnames]
    exact List.append_nil _
  rwa [hwhole] at hnodup

/-- The matcher of a sequence can be built where the nesting allows it, and it matches the paths that the
sequence takes from end to end. -/
theorem exists_matcher_of_fits (hfits : compiler.Fits s depth) (h : compiler.pattern? s = .ok p)
    (hnodup : p.parameterNames.Nodup) :
    ∃ d, nesting? p.anchored = some d ∧ d ≤ depth + 2 + 3 * s.depth ∧
      (d ≤ Assembly.depthLimit → ∃ m, Matcher.ofPattern? p = .ok m ∧
        ∀ path, m.isMatch path = true ↔ ∃ marks, s.ways compiler [] path [] marks) := by
  obtain ⟨a, hassemble, houter, hdepth, hways⟩ := exists_assembly_of_pattern? hfits h hnodup
  refine ⟨a.frame.body.depth, nesting?_of_assemble? hassemble houter, hdepth, fun hlimit => ?_⟩
  have hparse : parse? p.anchored = some a.frame.body.expr :=
    parse?_eq_some_iff.2 ⟨a, hassemble, houter, hlimit, rfl⟩
  exact ⟨⟨a.frame.body.expr, p.parameterNames⟩, Matcher.ofPattern?_eq_ok_iff.2 ⟨_, hparse, rfl⟩,
    fun path => isMatch_of_ways_eq hways path⟩

/-- So it is with plain fragments. -/
theorem ofPattern?_of_pattern? (hplain : compiler.IsPlain depth) (h : compiler.pattern? s = .ok p)
    (hnodup : p.parameterNames.Nodup) :
    ∃ d, nesting? p.anchored = some d ∧ d ≤ depth + 2 + 3 * s.depth ∧
      (d ≤ Assembly.depthLimit → ∃ m, Matcher.ofPattern? p = .ok m ∧
        ∀ path, m.isMatch path = true ↔ ∃ marks, s.ways compiler [] path [] marks) :=
  exists_matcher_of_fits (hplain.fits s) h hnodup

/-- A matcher that could be built for a sequence takes whole paths in the ways of the sequence, and asks for the
names of its pattern. -/
theorem ways_of_ofPattern? (hplain : compiler.IsPlain depth) (h : compiler.pattern? s = .ok p)
    (hnodup : p.parameterNames.Nodup) {m : Matcher} (hm : Matcher.ofPattern? p = .ok m) :
    m.parameterNames = p.parameterNames ∧
      m.regex.ways = (Ways.anchor .textStart).andThen ((s.ways compiler).andThen (Ways.anchor .textEnd)) := by
  obtain ⟨a, hassemble, _, _, hways⟩ := exists_assembly_of_pattern? (hplain.fits s) h hnodup
  obtain ⟨r, hparse, rfl⟩ := Matcher.ofPattern?_eq_ok_iff.1 hm
  obtain ⟨b, hassemble', _, _, rfl⟩ := parse?_eq_some_iff.1 hparse
  obtain rfl := Option.some.inj (hassemble.symm.trans hassemble')
  exact ⟨rfl, hways⟩

end Compiler

end PathTemplate
