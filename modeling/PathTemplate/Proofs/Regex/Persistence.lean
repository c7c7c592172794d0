/-
# PathTemplate.Proofs.Regex.Persistence — a lexeme does not depend on the bracket that closes the group around.

A pattern that is valid by itself can stand in a group: where its text ended, the closing bracket of the group
follows. No lexeme that could be read off the text alone is read differently then. The one place where more text is
looked at, without being needed, is a bracket in a set that might begin a named class; but no class has a round
bracket in its name.

In verbose mode there is one exception, and it is not a different reading but none at all: a comment that the text
left open takes the bracket in, and all that follows up to the end of the line. `Settles` says that a reader knows
no third case. It is kept by putting readers together, one after another or as alternatives.
-/
import PathTemplate.Proofs.Reader
import PathTemplate.Regex.Lexeme

namespace PathTemplate.Regex.Lexer

open PathTemplate.Reader

/-! ## Readers that a bracket ends or a comment hides -/

/-- What is read off a text is read too if a closing bracket follows. Or else the reader has come to the end of the
text in a comment, and stays in it until the line ends. -/
def Settles (verbose : Bool) (x : Reader α) : Prop :=
  ∀ t a rest, x.result t = some (a, rest) →
    (∀ u, x.result (t ++ ')' :: u) = some (a, rest ++ ')' :: u)) ∨
      verbose = true ∧ rest = [] ∧ ∀ u, '\n' ∉ u → x.result (t ++ ')' :: u) = some (a, [])

namespace Settles

variable {verbose : Bool} {x : Reader α}

theorem of_persists (hx : x.Persists ')') : Settles verbose x := fun t a rest h => Or.inl (hx t a rest h)

theorem pure (a : α) : Settles verbose (pure a) := of_persists (.pure a)

theorem failure : Settles verbose (failure : Reader α) := of_persists .failure

theorem ofOption (o : Option α) : Settles verbose (ofOption o) := of_persists (.ofOption o)

theorem skip {c : Char} (hc : ')' ≠ c) : Settles verbose (skip c) := of_persists (.skip hc)

theorem guard (p : Prop) [Decidable p] : Settles verbose (guard p : Reader Unit) := of_persists (.guard p)

theorem next : Settles verbose next := of_persists .next

theorem expect (c : Char) : Settles verbose (expect c) := of_persists (.expect c)

theorem run {p : Char → Bool} (hp : p ')' = false) : Settles verbose (run p) := of_persists (.run hp)

theorem bind {f : α → Reader β} (hx : Settles verbose x) (hf : ∀ a, Settles verbose (f a)) :
    Settles verbose (x >>= f) := by
  intro t b rest h
  rw [result_bind, Option.bind_eq_some_iff] at h
  obtain ⟨⟨a, middle⟩, ha, hb⟩ := h
  simp only [result_bind]
  rcases hx t a middle ha with hgoes | ⟨hverbose, rfl, hhides⟩
  · simp only [hgoes, Option.bind_some]
    exact hf a middle b rest hb
  · -- in the comment the second reader finds no more text than it found before
    obtain rfl : rest = [] := List.length_eq_zero_iff.1 (Nat.le_zero.1 (length_of_result hb))
    exact Or.inr ⟨hverbose, rfl, fun u hu => by rw [hhides u hu]; exact hb⟩

theorem ite {p : Prop} [Decidable p] {y : Reader α} (hx : Settles verbose x) (hy : Settles verbose y) :
    Settles verbose (if p then x else y) := by
  split
  · exact hx
  · exact hy

theorem peek_bind {f : Option Char → Reader α} (hf : ∀ o, Settles verbose (f o))
    (hend : ∀ a rest, (f none).result [] = some (a, rest) →
      ∀ u, (f (some ')')).result (')' :: u) = some (a, rest ++ ')' :: u)) :
    Settles verbose (peek >>= f) := by
  intro t a rest h
  simp only [result_bind, result_peek, Option.bind_some] at h ⊢
  cases t with
  | nil => exact Or.inl (hend a rest h)
  | cons c t => exact hf (some c) (c :: t) a rest h

/-- A reader with an alternative must not succeed where it failed before. -/
theorem orElse {y : Reader α} (hx : x.Stable ')') (hy : Settles verbose y) : Settles verbose (x <|> y) := by
  intro t a rest h
  rw [result_orElse] at h
  cases hresult : x.result t with
  | none =>
    have hnone (u : Text) : x.result (t ++ ')' :: u) = none := by rw [hx t u, hresult, Option.map_none]
    rw [hresult, Option.none_or] at h
    simp only [result_orElse, hnone, Option.none_or]
    exact hy t a rest h
  | some found =>
    rw [hresult, Option.some_or] at h
    obtain rfl := Option.some.inj h
    exact Or.inl fun u => by rw [result_orElse, hx t u, hresult, Option.map_some, Option.some_or]

/-- Where more text is needed there is no end in a comment. -/
theorem bind_persists {f : α → Reader β} (hx : Settles verbose x) (hf : ∀ a, (f a).Persists ')')
    (hneeds : ∀ a, (f a).result [] = none) : (x >>= f).Persists ')' := by
  intro t b rest h u
  rw [result_bind, Option.bind_eq_some_iff] at h
  obtain ⟨⟨a, middle⟩, ha, hb⟩ := h
  rcases hx t a middle ha with hgoes | ⟨-, rfl, -⟩
  · rw [result_bind, hgoes u]
    exact hf a middle b rest hb u
  · exact nomatch (hneeds a).symm.trans hb

end Settles

variable {verbose : Bool}

/-! ## Blanks and comments -/

theorem dropIgnored_true {u : Text} (hu : '\n' ∉ u) : dropIgnored true u = [] := by
  induction u with
  | nil => rfl
  | cons c u ih =>
    obtain ⟨hc, hu⟩ : '\n' ≠ c ∧ '\n' ∉ u := by simpa using hu
    rw [dropIgnored, if_pos rfl, bne_iff_ne.2 hc.symm]
    exact ih hu

theorem dropIgnored_append (inside : Bool) (t : Text) :
    (∀ u, dropIgnored inside (t ++ ')' :: u) = dropIgnored inside t ++ ')' :: u) ∨
      dropIgnored inside t = [] ∧ ∀ u, '\n' ∉ u → dropIgnored inside (t ++ ')' :: u) = [] := by
  induction t generalizing inside with
  | nil =>
    cases inside with
    | false => exact Or.inl fun u => rfl
    | true => exact Or.inr ⟨rfl, fun u hu => dropIgnored_true (by simpa using hu)⟩
  | cons c t ih =>
    simp only [List.cons_append, dropIgnored]
    split
    · exact ih _
    · split
      · exact ih _
      · split
        · exact ih _
        · exact Or.inl fun u => rfl

@[simp] theorem visible_false (t : Text) : visible false t = t := rfl

theorem visible_append (verbose : Bool) (t : Text) :
    (∀ u, visible verbose (t ++ ')' :: u) = visible verbose t ++ ')' :: u) ∨
      verbose = true ∧ visible verbose t = [] ∧ ∀ u, '\n' ∉ u → visible verbose (t ++ ')' :: u) = [] := by
  cases verbose with
  | false => exact Or.inl fun u => rfl
  | true => exact (dropIgnored_append false t).imp_right fun h => ⟨rfl, h⟩

theorem splitSpaced_true {p : Char → Bool} {u : Text} (hu : '\n' ∉ u) : splitSpaced p true u = ([], []) := by
  induction u with
  | nil => rfl
  | cons c u ih =>
    obtain ⟨hc, hu⟩ : '\n' ≠ c ∧ '\n' ∉ u := by simpa using hu
    rw [splitSpaced, if_pos rfl, bne_iff_ne.2 hc.symm]
    exact ih hu

theorem splitSpaced_append {p : Char → Bool} (hp : p ')' = false) (inside : Bool) (t : Text) :
    (∀ u, splitSpaced p inside (t ++ ')' :: u) =
        ((splitSpaced p inside t).1, (splitSpaced p inside t).2 ++ ')' :: u)) ∨
      (splitSpaced p inside t).2 = [] ∧
        ∀ u, '\n' ∉ u → splitSpaced p inside (t ++ ')' :: u) = ((splitSpaced p inside t).1, []) := by
  induction t generalizing inside with
  | nil =>
    cases inside with
    | false =>
      refine Or.inl fun u => ?_
      have hblank : Unicode.isBlank ')' = false := by decide
      simp [splitSpaced, hp, hblank]
    | true => exact Or.inr ⟨rfl, fun u hu => splitSpaced_true (by simpa using hu)⟩
  | cons c t ih =>
    simp only [List.cons_append, splitSpaced]
    split
    · exact ih _
    · split
      · rcases ih false with hgoes | ⟨hend, hhides⟩
        · exact Or.inl fun u => by rw [hgoes u]
        · exact Or.inr ⟨hend, fun u hu => by rw [hhides u hu]⟩
      · split
        · exact ih _
        · split
          · exact ih _
          · exact Or.inl fun u => rfl

/-- A run that ends before the text does ends there too if more text follows. -/
theorem splitSpaced_append_of_ne_nil {p : Char → Bool} {inside : Bool} {t : Text}
    (h : (splitSpaced p inside t).2 ≠ []) (u : Text) :
    splitSpaced p inside (t ++ u) = ((splitSpaced p inside t).1, (splitSpaced p inside t).2 ++ u) := by
  fun_induction splitSpaced p inside t with
  | case1 => exact absurd rfl h
  | case2 c rest ih => exact ih h
  | case3 inside c rest hinside hp taken left hsplit ih =>
    rw [hsplit] at ih
    simp [splitSpaced, hinside, hp, ih h]
  | case4 inside c rest hinside hp hblank ih => simpa [splitSpaced, hinside, hp, hblank] using ih h
  | case5 inside rest hinside hp hblank ih => simpa [splitSpaced, hinside, hp, hblank] using ih h
  | case6 inside c rest hinside hp hblank hcomment => simp [splitSpaced, hinside, hp, hblank, hcomment]

@[simp] theorem result_ignored (t : Text) : (ignored verbose).result t = some ((), visible verbose t) := rfl

theorem settles_ignored : Settles verbose (ignored verbose) := by
  intro t a rest h
  obtain ⟨-, rfl⟩ := Prod.mk.inj (Option.some.inj h)
  simp only [result_ignored]
  rcases visible_append verbose t with hgoes | ⟨hverbose, hend, hhides⟩
  · exact Or.inl fun u => by rw [hgoes u]
  · exact Or.inr ⟨hverbose, hend, fun u hu => by rw [hhides u hu]⟩

theorem settles_spaced {p : Char → Bool} (hp : p ')' = false) : Settles verbose (spaced verbose p) := by
  cases verbose with
  | false => exact .run hp
  | true =>
    have hresult (t : Text) : (spaced true p).result t = some (splitSpaced p false t) := rfl
    intro t a rest h
    obtain ⟨rfl, rfl⟩ := Prod.mk.inj (Option.some.inj h)
    rcases splitSpaced_append hp false t with hgoes | ⟨hend, hhides⟩
    · exact Or.inl fun u => by rw [hresult, hgoes u]
    · exact Or.inr ⟨rfl, hend, fun u hu => by rw [hresult, hhides u hu]⟩

/-- A run may take the bracket itself, if something has to come after the run. -/
theorem persists_spaced_expect_bind (p : Char → Bool) (c : Char) {f : Text → Reader α}
    (hf : ∀ name, (f name).Persists ')') :
    (do
      let name ← spaced verbose p
      expect c
      f name).Persists ')' := by
  cases verbose with
  | false => exact .run_expect_bind p c hf
  | true =>
    have hresult (t : Text) : (spaced true p).result t = some (splitSpaced p false t) := rfl
    intro t a rest h u
    rw [result_bind, hresult, Option.bind_some] at h ⊢
    have hleft : (splitSpaced p false t).2 ≠ [] := by
      intro hnil
      simp [hnil] at h
    rw [splitSpaced_append_of_ne_nil hleft]
    exact Persists.bind (.expect c) (fun _ => hf _) _ a rest h u

/-! ## Characters and escapes -/

theorem settles_charOfHex (digits : Text) : Settles verbose (charOfHex digits) :=
  .bind (.guard _) fun _ => .pure _

theorem settles_hexDigits (n : Nat) : Settles verbose (hexDigits verbose n) := by
  induction n with
  | zero => exact .pure _
  | succ n ih =>
    refine .bind .next fun c => .bind (.guard _) fun _ => .bind settles_ignored fun _ => ?_
    exact .bind ih fun _ => .pure _

theorem settles_hexEscape (n : Nat) : Settles verbose (hexEscape verbose n) := by
  refine .bind settles_ignored fun _ => .bind (.skip (by decide)) fun _ => .ite ?_ ?_
  · refine .bind settles_ignored fun _ => .bind (settles_spaced (by decide)) fun digits => ?_
    refine .bind (.expect _) fun _ => .bind settles_ignored fun _ => ?_
    exact .bind (settles_charOfHex digits) fun _ => .pure _
  · refine .bind (settles_hexDigits n) fun digits => ?_
    exact .bind (settles_charOfHex digits) fun _ => .pure _

/-- The name of a property may hold any bracket, since it has to be closed by a brace. -/
theorem settles_propertyName : Settles verbose (propertyName verbose) := by
  refine .bind settles_ignored fun _ => .bind (.skip (by decide)) fun _ => .ite ?_ ?_
  · refine .bind settles_ignored fun _ => .of_persists ?_
    exact persists_spaced_expect_bind _ _ fun _ => .pure _
  · refine .bind .next fun c => .bind (.guard _) fun _ => ?_
    exact .bind settles_ignored fun _ => .pure _

theorem settles_boundary : Settles verbose (boundary verbose) := by
  have hfirst : (do
      expect '{'
      ignored verbose
      next : Reader Char).Persists ')' :=
    .bind (.expect _) fun _ => settles_ignored.bind_persists (fun _ => .next) fun _ => rfl
  refine .peek_bind (fun o => .ite (.pure _) ?_) ?_
  · refine .bind (.of_persists (.lookahead hfirst)) fun _ => ?_
    refine .ite (.pure _) (.bind (.expect _) fun _ => .bind settles_ignored fun _ => ?_)
    exact .bind (settles_spaced (by decide)) fun _ => .bind (.expect _) fun _ => .ofOption _
  · -- at the end of the text no brace follows, and none does if a bracket is added
    intro a rest h u
    rw [if_pos (by simp), result_pure] at h ⊢
    obtain ⟨rfl, rfl⟩ := Prod.mk.inj (Option.some.inj h)
    rfl

theorem settles_escape : Settles verbose (escape verbose) := by
  refine .bind .next fun c => ?_
  split
  case h_1 => exact settles_hexEscape 2
  case h_2 => exact settles_hexEscape 4
  case h_3 => exact settles_hexEscape 8
  case h_4 => exact .bind settles_propertyName fun _ => .pure _
  case h_5 => exact .bind settles_propertyName fun _ => .pure _
  case h_20 => exact .bind settles_boundary fun _ => .pure _
  case h_24 => exact .bind (.guard _) fun _ => .pure _
  all_goals exact .pure _

/-! ## Bracketed sets -/

theorem settles_setAtom (c : Char) : Settles verbose (setAtom verbose c) :=
  .ite settles_escape (.pure _)

theorem dropWhile_isBlank_append {t : Text} (h : t.dropWhile Unicode.isBlank = []) (u : Text) :
    (t ++ ')' :: u).dropWhile Unicode.isBlank = ')' :: u := by
  rw [List.dropWhile_append_of_pos (List.dropWhile_eq_nil_iff.1 h)]
  exact List.dropWhile_cons_of_neg (by decide)

/-- A text begins with a blank, or with the first character that is none. -/
theorem isBlank_or_head?_dropWhile {t : Text} {c : Char} (h : t.head? = some c) :
    Unicode.isBlank c = true ∨ (t.dropWhile Unicode.isBlank).head? = some c := by
  cases t with
  | nil => simp at h
  | cons d t =>
    obtain rfl := Option.some.inj h
    by_cases hblank : Unicode.isBlank d = true
    · exact Or.inl hblank
    · exact Or.inr (by rw [List.dropWhile_cons_of_neg hblank, List.head?_cons])

/-- A bracket behind the text does not change the character by which a hyphen is judged, or it takes the place of a
character that is as harmless as itself. -/
theorem afterHyphen_append (verbose : Bool) (rest u : Text) :
    afterHyphen verbose (rest ++ ')' :: u) = afterHyphen verbose rest ∨
      afterHyphen verbose (rest ++ ')' :: u) = some ')' ∧
        ∀ c, afterHyphen verbose rest = some c → Unicode.isBlank c = true ∨ c = '#' := by
  unfold afterHyphen
  cases verbose with
  | false =>
    cases rest with
    | nil => exact Or.inr ⟨rfl, fun c hc => nomatch hc⟩
    | cons d rest => exact Or.inl rfl
  | true =>
    cases hrest : rest.dropWhile Unicode.isBlank with
    | nil =>
      rw [dropWhile_isBlank_append hrest]
      refine Or.inr ⟨rfl, fun c hc => (isBlank_or_head?_dropWhile hc).imp_right fun h => ?_⟩
      simp [hrest] at h
    | cons d after =>
      rw [(dropWhile_append (by simp [hrest]) _).2, hrest, List.cons_append]
      by_cases hd : d = '#'
      · subst hd
        cases hafter : after.dropWhile Unicode.isBlank with
        | nil =>
          -- a comment of blanks, so the hyphen is judged by the blank or the number sign right after it
          simp only [dropWhile_isBlank_append hafter, hafter]
          refine Or.inr ⟨rfl, fun c hc => (isBlank_or_head?_dropWhile hc).imp_right fun h => ?_⟩
          simpa [hrest, eq_comm] using h
        | cons e after' =>
          simp only [(dropWhile_append (by simp [hafter] : after.dropWhile Unicode.isBlank ≠ []) _).2, hafter]
          exact Or.inl rfl
      · exact Or.inl (by simp)

theorem stable_rangeFollows : (rangeFollows verbose).Stable ')' := by
  have hblank : Unicode.isBlank ']' = false ∧ Unicode.isBlank '-' = false := by decide
  intro t u
  cases t with
  | nil => rfl
  | cons c t =>
    by_cases hc : c = '-'
    · subst hc
      show some (afterHyphen verbose (t ++ ')' :: u) != some ']' &&
            afterHyphen verbose (t ++ ')' :: u) != some '-', _) =
        some (afterHyphen verbose t != some ']' && afterHyphen verbose t != some '-', _)
      rcases afterHyphen_append verbose t u with heq | ⟨heq, hharmless⟩
      · rw [heq]
        rfl
      · have hset : afterHyphen verbose t ≠ some ']' := fun h => by simpa [hblank.1] using hharmless _ h
        have hhyphen : afterHyphen verbose t ≠ some '-' := fun h => by simpa [hblank.2] using hharmless _ h
        rw [heq, bne_iff_ne.2 hset, bne_iff_ne.2 hhyphen]
        rfl
    · simp [result, rangeFollows, hc, Remainder.all]

theorem settles_setItem (c : Char) : Settles verbose (setItem verbose c) := by
  refine .bind (settles_setAtom c) fun first => .bind settles_ignored fun _ => ?_
  refine .bind (.of_persists (.of_stable stable_rangeFollows)) fun follows => .ite ?range ?single
  case range =>
    refine .bind (.expect _) fun _ => .bind settles_ignored fun _ => .bind .next fun d => ?_
    refine .bind (settles_setAtom d) fun last => .bind (.ofOption _) fun _ => ?_
    exact .bind (.ofOption _) fun _ => .bind (.guard _) fun _ => .pure _
  case single =>
    split
    case h_5 => exact .failure
    all_goals exact .pure _

/-- No class has a round bracket in its name. -/
theorem ofName?_eq_none {name : Text} (h : ')' ∈ name) : CharSet.AsciiClass.ofName? name = none := by
  have hne (n : String) (hn : ')' ∉ n.toList) : n.toList ≠ name := by
    rintro rfl
    exact hn h
  simp only [CharSet.AsciiClass.ofName?, List.findSome?_eq_none_iff, List.mem_cons, List.not_mem_nil, or_false]
  rintro e (rfl | rfl | rfl | rfl | rfl | rfl | rfl | rfl | rfl | rfl | rfl | rfl | rfl | rfl)
  all_goals exact if_neg (hne _ (by decide))

theorem stable_asciiClass : asciiClass.Stable ')' := by
  refine .bind (.expect (by decide)) fun _ => .bind (.skip (by decide)) fun negated => ?_
  -- the run may reach far beyond the pattern, but then it is not the name of a class
  refine .run_expect_bind (by decide) (by decide) (fun name => ?_) fun name hname t => ?_
  · exact .bind (.expect (by decide)) fun _ => .bind (.ofOption _) fun _ => .pure _
  · rw [ofName?_eq_none hname, result_bind]
    cases (expect ']').result t <;> rfl

theorem settles_setOpening : Settles verbose (setOpening verbose) := by
  refine .bind settles_ignored fun _ => .bind (.skip (by decide)) fun negated => ?_
  refine .bind settles_ignored fun _ => .bind (settles_spaced (by decide)) fun hyphens => ?_
  exact .ite (.pure _) (.bind (.skip (by decide)) fun _ => .ite (.pure _) (.pure _))

theorem settles_setOperator {sign : Char} (hsign : ')' ≠ sign) (op : SetOperator) :
    Settles verbose (setOperator verbose sign op) :=
  .orElse (.bind (.expect hsign) fun _ => .pure _) (settles_setItem sign)

theorem settles_setLexeme (c : Char) : Settles verbose (setLexeme verbose c) := by
  unfold setLexeme
  split
  · exact .orElse stable_asciiClass settles_setOpening
  · exact .pure _
  · exact settles_setOperator (by decide) _
  · exact settles_setOperator (by decide) _
  · exact settles_setOperator (by decide) _
  · exact settles_setItem _

theorem result_setRest_of_nil {openInside : Nat} {t : Text} (h : visible verbose t = []) :
    result (setRest verbose openInside) t = none := by
  unfold result
  rw [setRest]
  split
  · rfl
  · rename_i hvisible
    rw [h] at hvisible
    simp at hvisible

theorem result_setRest_of_cons {openInside : Nat} {t : Text} {c : Char} {rest : Text}
    (h : visible verbose t = c :: rest) :
    result (setRest verbose openInside) t =
      ((setLexeme verbose c).result rest).bind fun (lexeme, rest') =>
        match openSets openInside lexeme with
        | none => some ([lexeme], rest')
        | some openInside' =>
          (result (setRest verbose openInside') rest').map fun (lexemes, rest'') =>
            (lexeme :: lexemes, rest'') := by
  unfold result
  rw [setRest]
  split
  · rename_i hvisible
    rw [h] at hvisible
    simp at hvisible
  · rename_i hvisible
    rw [h] at hvisible
    obtain ⟨rfl, rfl⟩ := List.cons.inj hvisible
    dsimp only
    cases setLexeme verbose c rest with
    | none => rfl
    | some found =>
      obtain ⟨lexeme, rest', _⟩ := found
      dsimp only [Option.map_some, Option.bind_some]
      cases openSets openInside lexeme with
      | none => rfl
      | some openInside' =>
        dsimp only
        cases setRest verbose openInside' rest' <;> rfl

theorem settles_setRest (openInside : Nat) : Settles verbose (setRest verbose openInside) := by
  intro t
  induction hn : t.length using Nat.strongRecOn generalizing openInside t with
  | ind n ih =>
    subst hn
    intro a rest h
    cases hvisible : visible verbose t with
    | nil => exact nomatch (result_setRest_of_nil hvisible).symm.trans h
    | cons c t' =>
      -- where a comment would hide the bracket there would be no character here
      have hlonger (u : Text) : visible verbose (t ++ ')' :: u) = c :: (t' ++ ')' :: u) := by
        rcases visible_append verbose t with hgoes | ⟨-, hend, -⟩
        · rw [hgoes u, hvisible, List.cons_append]
        · exact nomatch hvisible.symm.trans hend
      rw [result_setRest_of_cons hvisible, Option.bind_eq_some_iff] at h
      obtain ⟨⟨lexeme, rest'⟩, hlexeme, h⟩ := h
      simp only [result_setRest_of_cons (hlonger _)]
      rcases settles_setLexeme c t' lexeme rest' hlexeme with hgoes | ⟨hverbose, rfl, hhides⟩
      · simp only [hgoes, Option.bind_some]
        cases hopen : openSets openInside lexeme with
        | none =>
          simp only [hopen] at h ⊢
          obtain ⟨rfl, rfl⟩ := Prod.mk.inj (Option.some.inj h)
          exact Or.inl fun _ => rfl
        | some openInside' =>
          simp only [hopen, Option.map_eq_some_iff] at h ⊢
          obtain ⟨⟨lexemes, rest''⟩, hrest, heq⟩ := h
          obtain ⟨rfl, rfl⟩ := Prod.mk.inj heq
          have hlt : rest'.length < t.length := by
            have hle := length_visible verbose t
            rw [hvisible, List.length_cons] at hle
            exact Nat.lt_of_lt_of_le (Nat.lt_succ_of_le (length_of_result hlexeme)) hle
          rcases ih _ hlt openInside' rest' rfl lexemes rest'' hrest with hgoes | ⟨hverbose, rfl, hhides⟩
          · exact Or.inl fun u => ⟨_, hgoes u, rfl⟩
          · exact Or.inr ⟨hverbose, rfl, fun u hu => ⟨_, hhides u hu, rfl⟩⟩
      · -- the text has come to its end, so the set has been closed
        cases hopen : openSets openInside lexeme with
        | none =>
          simp only [hopen] at h
          obtain ⟨rfl, rfl⟩ := Prod.mk.inj (Option.some.inj h)
          exact Or.inr ⟨hverbose, rfl, fun u hu => by rw [hhides u hu, Option.bind_some, hopen]⟩
        | some openInside' =>
          have hend : visible verbose [] = [] := by cases verbose <;> rfl
          simp only [hopen, result_setRest_of_nil hend] at h
          simp at h

theorem settles_bracketed : Settles verbose (bracketed verbose) :=
  .bind settles_setOpening fun _ => .bind (settles_setRest 0) fun _ => .pure _

/-! ## Repetitions -/

theorem settles_count : Settles verbose (count verbose) := by
  refine .bind settles_ignored fun _ => .bind (.run (by decide)) fun _ => ?_
  refine .bind (settles_spaced (by decide)) fun _ => .bind (.run (by decide)) fun _ => ?_
  exact .bind (.guard _) fun _ => .pure _

theorem settles_counted : Settles verbose (counted verbose) := by
  have hend (most : Option Nat) (least : Nat) : Settles verbose (do
      expect '}'
      ignored verbose
      return .repetition least most (!(← skip '?')) : Reader Lexeme) :=
    .bind (.expect _) fun _ => .bind settles_ignored fun _ => .bind (.skip (by decide)) fun _ => .pure _
  refine .bind settles_count fun least => .bind (.skip (by decide)) fun more => .ite ?_ ?_
  · refine .bind settles_ignored fun _ => .peek_bind (fun o => .ite ?_ ?_) ?_
    · exact .bind (.pure _) fun most => hend most least
    · refine .bind settles_count fun most => .bind (.guard _) fun _ => ?_
      exact .bind (.pure _) fun most => hend most least
    · -- after a comma a text that ends cannot be read on
      intro a rest h
      have hcount : (count verbose).result [] = none := by cases verbose <;> rfl
      rw [if_neg (by simp), result_bind, hcount] at h
      simp at h
  · exact .bind (.pure _) fun most => hend most least

theorem settles_uncounted (least : Nat) (most : Option Nat) : Settles verbose (uncounted least most) :=
  .bind (.skip (by decide)) fun _ => .pure _

/-! ## Groups -/

theorem persists_groupName : groupName.Persists ')' := by
  refine .run_expect_bind _ _ fun name => ?_
  split
  · exact .failure
  · exact .bind (.guard _) fun _ => .pure _

theorem persists_flagGroup : flagGroup.Persists ')' := by
  refine .bind (.run (by decide)) fun spec => .bind (.ofOption _) fun settings => ?_
  refine .bind (.skip (by decide)) fun colon => .ite (.pure _) ?_
  exact .bind (.expect _) fun _ => .bind (.guard _) fun _ => .pure _

theorem settles_group : Settles verbose (group verbose) := by
  have hname : Settles verbose (do
      expect '<'
      return .groupOpening (.named (← groupName)) : Reader Lexeme) :=
    .bind (.expect _) fun _ => .bind (.of_persists persists_groupName) fun _ => .pure _
  refine .bind settles_ignored fun _ => .bind (.skip (by decide)) fun question => .ite (.pure _) ?_
  refine .peek_bind (fun o => ?_) ?_
  · split
    · exact .bind (.expect _) fun _ => hname
    · exact hname
    · exact .of_persists persists_flagGroup
  · -- a question mark at the very end opens no group
    intro a rest h
    have hflags : flagGroup.result [] = none := rfl
    rw [hflags] at h
    simp at h

/-! ## Lexemes of a pattern -/

theorem settles_lexeme (c : Char) : Settles verbose (lexeme verbose c) := by
  unfold lexeme
  split
  · exact settles_group
  · exact .pure _
  · exact .pure _
  · exact .bind settles_bracketed fun _ => .pure _
  · exact settles_uncounted _ _
  · exact settles_uncounted _ _
  · exact settles_uncounted _ _
  · exact settles_counted
  · exact .pure _
  · exact .pure _
  · exact .pure _
  · refine .bind settles_escape fun escape => ?_
    split <;> exact .pure _
  · exact .pure _

end PathTemplate.Regex.Lexer
