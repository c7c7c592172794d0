/-
# PathTemplate.Proofs.Safety — which fragments are safe in every template.

A fragment enters a catalog if it is valid by itself, but it is used between the brackets of a group. There it is safe:
whatever template it is used in, with whatever fragments beside it, the pattern of the template is valid again. A
fragment may leave flags behind, which end with the group; it may turn verbose mode on, and so may the fragment before
it. What it must not do is end in a comment, because then the bracket that closes its group belongs to the comment.

Such a fragment can be valid by itself. So a catalog without them is safe, and one that has one is not: there is a
template whose pattern is not valid.
-/
import PathTemplate.Proofs.Recognition

namespace PathTemplate

open Regex

/-! ## Groups that are not closed -/

namespace Regex

/-- A pattern that stands in a group leaves the group open. -/
theorem Assembly.outer_inside_ne_nil (a c : Assembly) (grouping : Grouping) : (a.inside grouping c).outer ≠ [] := by
  unfold inside
  cases a.outer with
  | nil => simp [nest]
  | cons next outer => simp [nest]

/-- The group of a parameter whose fragment ends in a comment is never closed. -/
theorem parse?_of_endsInComment [PropertyTable] {name fragment : Text} (hname : name.isIdentifier = true)
    (hvalid : isValid fragment = true) (hnone : namesNoGroup fragment = true) (hopen : endsInComment fragment = true) :
    parse? ((Pattern.empty.attachGroup name fragment).anchored) = none := by
  obtain ⟨r, hparse⟩ := Option.isSome_iff_exists.1 hvalid
  obtain ⟨ls, a, hread, hunnamed, hrun, -⟩ := exists_lexemes_of_parse? hnone hparse
  have hcuts : Cuts ⟨false, []⟩ ('^' :: ("(?P<".toList ++ name ++ '>' :: (fragment ++ [')', '$'])))
      [.caret, .groupOpening (.named name)] ⟨false, [false]⟩ (fragment ++ [')', '$']) :=
    (Cuts.caret _).append (Cuts.namedOpening hname _)
  have hrest : lexemes? ⟨false, [false]⟩ (fragment ++ [')', '$']) = some ls :=
    hides_of_endsInComment hread hrun hopen [false] ['$'] (by decide)
  have htext : (Pattern.empty.attachGroup name fragment).anchored =
      '^' :: ("(?P<".toList ++ name ++ '>' :: (fragment ++ [')', '$'])) := by
    show '^' :: ("(?P<".toList ++ name ++ '>' :: fragment ++ [')'] ++ ['$']) = _
    simp
  -- the assembly stays inside the group
  let c : Assembly := { Assembly.start.addAnchor .textStart with names := [name] }
  have hassemble : assemble? (Pattern.empty.attachGroup name fragment).anchored = some (a.inside (.named name) c) := by
    rw [Cuts, hrest, Option.map_some] at hcuts
    rw [assemble?, htext, hcuts]
    show (ls.foldlM Assembly.step? (c.openGroup (.named name) c.frame.flags)) = _
    rw [Assembly.openGroup_eq_inside rfl, Assembly.foldlM_inside hunnamed hrun]
  rw [Option.eq_none_iff_forall_ne_some]
  intro r' hparse'
  obtain ⟨b, hassemble', houter, -⟩ := parse?_eq_some_iff.1 hparse'
  obtain rfl := Option.some.inj (hassemble.symm.trans hassemble')
  exact Assembly.outer_inside_ne_nil a c _ houter

end Regex

/-! ## Fragments that catalogs hold -/

namespace Catalog

variable {catalog : Catalog}

theorem BuiltFrom.of_fragment? [PropertyTable] (h : catalog.BuiltFrom fun fragment => namesNoGroup fragment = true)
    {name fragment : Text} (hfragment : catalog.fragment? name = .ok fragment) :
    namesNoGroup fragment = true ∧ isValid fragment = true :=
  h.allowed_entries (fun e he => namesNoGroup_of_isPlain (builtin_entries e he).1) _
    (mem_entries_of_fragment? hfragment)

/-- A compiler with the type as its default type. -/
theorem withDefaultType?_of_fragment? {name fragment : Text} (hfragment : catalog.fragment? name = .ok fragment)
    (grammar : Grammar) :
    (Compiler.ofCatalog grammar catalog).withDefaultType? name = .ok ⟨grammar, catalog, name⟩ := by
  rw [Compiler.withDefaultType?]
  show (catalog.fragment? name >>= _) = _
  rw [hfragment]
  rfl

end Catalog

namespace Compiler

variable {compiler : Compiler}

/-- A template with nothing but a parameter without a type. -/
theorem compile_of_fragment? {catalog : Catalog} {name fragment : Text}
    (hfragment : catalog.fragment? name = .ok fragment) :
    compile ⟨.standard, catalog, name⟩ "{a}".toList = .ok (Pattern.empty.attachGroup ['a'] fragment) := by
  have hparse : Template.parse? .standard "{a}".toList =
      .ok ⟨"{a}".toList, .standard, .parameter ⟨['a'], none, "{a}".toList⟩ .nil⟩ := by decide +kernel
  have hfragment' : fragment? ⟨.standard, catalog, name⟩ ⟨['a'], none, "{a}".toList⟩ = .ok fragment := hfragment
  have hpattern : pattern? ⟨.standard, catalog, name⟩ (.parameter ⟨['a'], none, "{a}".toList⟩ .nil) =
      .ok (Pattern.empty.attachGroup ['a'] fragment) := by
    rw [pattern?, if_pos (by decide), hfragment']
    rfl
  rw [compile, hparse]
  exact hpattern

/-! ## Safety -/

/-- Let a catalog hold fragments that are valid by themselves and name no groups. The pattern of a template is valid
then, where the nesting allows it and the names of its groups differ, unless a fragment of the template ends in a
comment. For each fragment that ends in a comment there is a template whose pattern is not valid. -/
theorem exists_matcher_of_builtFrom [PropertyTable] (catalog : Catalog)
    (hcatalog : catalog.BuiltFrom fun fragment => namesNoGroup fragment = true) :
    (∀ (compiler : Compiler) (source : Text) (template : Template) (p : Pattern), compiler.catalog = catalog →
        Template.parse? compiler.grammar source = .ok template → compiler.compile source = .ok p →
        ((template.segments.tokens.filter (·.isIdentifier)).map (·.name)).Nodup →
        (∀ d, nesting? p.anchored = some d → d ≤ Assembly.depthLimit) →
        (∀ token ∈ template.segments.tokens, token.isIdentifier = true →
          ∀ fragment, compiler.fragment? token = .ok fragment → endsInComment fragment = false) →
        ∃ m, Matcher.ofPattern? p = .ok m) ∧
      ∀ name fragment, catalog.fragment? name = .ok fragment → endsInComment fragment = true →
        ∃ compiler p, (ofCatalog .standard catalog).withDefaultType? name = .ok compiler ∧
          compiler.compile "{a}".toList = .ok p ∧ Matcher.ofPattern? p = .error .invalidPattern := by
  constructor
  · rintro compiler source template p rfl hparse hcompile hnodup hnesting hclosed
    have hpattern : compiler.pattern? template.segments = .ok p := by
      rw [compile, hparse] at hcompile
      exact hcompile
    have hfits : compiler.Fits template.segments Assembly.depthLimit := by
      intro token htoken hidentifier fragment hfragment
      obtain ⟨hnone, hvalid⟩ := hcatalog.of_fragment? hfragment
      exact ⟨hvalid, hnone, hclosed token htoken hidentifier fragment hfragment,
        fun d hd => nesting?_le_of_isValid hvalid hd⟩
    rw [← parameterNames_of_pattern? hpattern] at hnodup
    obtain ⟨d, hd, -, hmatcher⟩ := exists_matcher_of_fits hfits hpattern hnodup
    obtain ⟨m, hm, -⟩ := hmatcher (hnesting d hd)
    exact ⟨m, hm⟩
  · intro name fragment hfragment hopen
    obtain ⟨hnone, hvalid⟩ := hcatalog.of_fragment? hfragment
    have hparse : parse? (Pattern.empty.attachGroup ['a'] fragment).anchored = none :=
      parse?_of_endsInComment (by decide) hvalid hnone hopen
    exact ⟨_, _, Catalog.withDefaultType?_of_fragment? hfragment _, compile_of_fragment? hfragment,
      Matcher.ofPattern?_of_parse?_eq_none hparse⟩

/-- A fragment that is valid, names no group and ends in a comment: no matcher can be made of a template with it. -/
theorem ofPattern?_of_open_comment :
    ∃ catalog p, Catalog.builtin.withType? "t".toList "(?x)a#".toList = .ok catalog ∧
      namesNoGroup "(?x)a#".toList = true ∧ (ofCatalog .standard catalog).compile "/{x:t}".toList = .ok p ∧
      p.parameterNames.Nodup ∧ (∀ d, nesting? p.anchored = some d → d ≤ Assembly.depthLimit) ∧
      Matcher.ofPattern? p = .error .invalidPattern := by
  let catalog : Catalog := ⟨Catalog.builtin.table.insert "t".toList "(?x)a#".toList⟩
  let p : Pattern := ⟨"/(?P<x>(?x)a#)".toList, ["x".toList]⟩
  have hnesting : nesting? p.anchored = none := by decide +kernel
  have hparse : (parse? p.anchored).isNone = true := by decide +kernel
  refine ⟨catalog, p, if_pos (by decide +kernel), by decide +kernel, by decide +kernel, by decide, ?_,
    Matcher.ofPattern?_of_parse?_eq_none (Option.isNone_iff_eq_none.1 hparse)⟩
  rw [hnesting]
  rintro d ⟨⟩

/-- A fragment may be laid out over lines, with a comment that ends before it does; so the template is safe, although
the catalog also holds a fragment that is not. -/
theorem exists_matcher_of_closed_comment :
    ∃ first catalog p, Catalog.builtin.withType? "id".toList "(?x) [0-9]+ # digits\n".toList = .ok first ∧
      first.withType? "open".toList "(?x)a#".toList = .ok catalog ∧
      (ofCatalog .standard catalog).compile "/{x:id}[/{y}]".toList = .ok p ∧ (∃ m, Matcher.ofPattern? p = .ok m) ∧
      ∃ compiler q, (ofCatalog .standard catalog).withDefaultType? "open".toList = .ok compiler ∧
        compiler.compile "{a}".toList = .ok q ∧ Matcher.ofPattern? q = .error .invalidPattern := by
  let verbose : Text := "(?x) [0-9]+ # digits\n".toList
  let first : Catalog := ⟨Catalog.builtin.table.insert "id".toList verbose⟩
  let catalog : Catalog := ⟨first.table.insert "open".toList "(?x)a#".toList⟩
  let source : Text := "/{x:id}[/{y}]".toList
  let x : Token := ⟨"x".toList, some "id".toList, "{x:id}".toList⟩
  let y : Token := ⟨"y".toList, none, "{y}".toList⟩
  let p : Pattern := ⟨"/(?P<x>(?x) [0-9]+ # digits\n)(?:/(?P<y>[^/.]+))?".toList, ["x".toList, "y".toList]⟩
  have hfirst : Catalog.builtin.withType? "id".toList verbose = .ok first := if_pos (by decide +kernel)
  have hcatalog : first.withType? "open".toList "(?x)a#".toList = .ok catalog := if_pos (by decide +kernel)
  have hbuilt : catalog.BuiltFrom fun fragment => namesNoGroup fragment = true :=
    .withType (.withType .builtin (by decide +kernel) hfirst) (by decide +kernel) hcatalog
  have hparse : Template.parse? .standard source = .ok ⟨source, .standard, .literal "/".toList
      (.parameter x (.optional (.literal "/".toList (.parameter y .nil)) .nil))⟩ := by decide +kernel
  have hcompile : (ofCatalog .standard catalog).compile source = .ok p := by decide +kernel
  have hnesting : (nesting? p.anchored).all (· ≤ Assembly.depthLimit) = true := by decide +kernel
  have hx : (ofCatalog .standard catalog).fragment? x = .ok verbose := by decide +kernel
  have hy : (ofCatalog .standard catalog).fragment? y = .ok "[^/.]+".toList := by decide +kernel
  obtain ⟨hsafe, hunsafe⟩ := exists_matcher_of_builtFrom catalog hbuilt
  refine ⟨first, catalog, p, hfirst, hcatalog, hcompile, hsafe _ source _ p rfl hparse hcompile (by decide) ?_ ?_,
    hunsafe "open".toList "(?x)a#".toList (by decide +kernel) (by decide +kernel)⟩
  · intro d hd
    rw [hd] at hnesting
    exact of_decide_eq_true hnesting
  · intro token htoken _ fragment hfragment
    rcases List.mem_pair.1 htoken with rfl | rfl
    · obtain rfl := Except.ok.inj (hx.symm.trans hfragment)
      decide +kernel
    · obtain rfl := Except.ok.inj (hy.symm.trans hfragment)
      decide +kernel

end Compiler

end PathTemplate
