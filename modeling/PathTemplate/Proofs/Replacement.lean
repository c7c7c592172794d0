/-
# PathTemplate.Proofs.Replacement — what filling the tokens of a text changes, and what it leaves.

A token may stand anywhere in a text, among stray bounds of either kind. No two tokens of a text share a character,
so it makes sense to replace some of them by values: those whose content is well formed and whose name is supplied.
Filling does just that. Everything else is copied, and which tokens are replaced depends on what names are supplied,
not on the values: a value that looks like a token is put in as it is.
-/
import Mathlib.Data.List.Pairwise
import PathTemplate.Proofs.Occurrence

namespace PathTemplate

/-! ## Names of tokens -/

/-- The content is that of a well-formed token with the name: there is one separator at the most, and something in
front of it. -/
def Token.HasName (separator : Char) (content name : Text) : Prop :=
  content.count separator ≤ 1 ∧ name ≠ [] ∧ name = content.takeWhile (· != separator)

theorem Grammar.exists_token?_iff_hasName {g : Grammar} {content name : Text} :
    (∃ token, g.token? content = .ok token ∧ token.name = name) ↔ Token.HasName g.separator content name := by
  unfold Token.HasName
  by_cases hmem : g.separator ∈ content
  · obtain ⟨front, typeName, rfl, hfront⟩ := List.eq_append_cons_of_mem hmem
    have htake : (front ++ g.separator :: typeName).takeWhile (· != g.separator) = front := by
      rw [List.takeWhile_append_of_pos (Token.forall_bne_of_not_mem hfront)]
      simp
    have hcount : (front ++ g.separator :: typeName).count g.separator ≤ 1 ↔ g.separator ∉ typeName := by
      rw [List.count_append, List.count_eq_zero.2 hfront, List.count_cons_self, ← List.count_eq_zero]
      omega
    rw [htake, hcount, token?, Token.ofContent?_append hfront]
    by_cases htype : g.separator ∈ typeName
    · simp [htype]
    · by_cases hne : front = []
      · simp [htype, hne]
      · simp only [if_neg htype, if_neg hne, Except.ok.injEq, exists_eq_left']
        exact ⟨fun h => ⟨htype, h ▸ hne, h.symm⟩, fun h => h.2.2.symm⟩
  · have htake : content.takeWhile (· != g.separator) = content :=
      List.takeWhile_eq_self_iff.2 (Token.forall_bne_of_not_mem hmem)
    rw [htake, List.count_eq_zero.2 hmem, token?, Token.ofContent?_of_not_mem hmem]
    by_cases hne : content = []
    · simp [hne]
    · simp only [if_neg hne, Except.ok.injEq, exists_eq_left']
      exact ⟨fun h => ⟨Nat.zero_le 1, h ▸ hne, h.symm⟩, fun h => h.2.2.symm⟩

/-! ## Replacing -/

/-- A token in a text: the place where it begins, its content and its name. -/
structure Occurrence where
  place : Nat
  content : Text
  name : Text

namespace Occurrence

/-- The place behind the token. -/
def stop (o : Occurrence) : Nat := o.place + o.content.length + 2

/-- The text with values in the place of the tokens, if the text begins at `start`. What is between the tokens is
copied. -/
def replaced (values : Supply) (start : Nat) (t : Text) : List Occurrence → Text
  | [] => t
  | o :: later =>
    t.take (o.place - start) ++
      ((values o.name).getD [] ++ replaced values o.stop (t.drop (o.stop - start)) later)

/-- Text in front of all tokens is copied. -/
theorem replaced_append {values : Supply} {start : Nat} {x : Text} {os : List Occurrence}
    (hbehind : ∀ o ∈ os, start + x.length ≤ o.place) (t : Text) :
    replaced values start (x ++ t) os = x ++ replaced values (start + x.length) t os := by
  cases os with
  | nil => rfl
  | cons o later =>
    have hplace : start + x.length ≤ o.place := hbehind o List.mem_cons_self
    have hstop : start + x.length ≤ o.stop := by
      rw [stop]
      omega
    rw [replaced, replaced, List.take_append, List.take_of_length_le (by omega), List.drop_append,
      List.drop_of_length_le (by omega), List.nil_append, List.append_assoc, Nat.sub_sub, Nat.sub_sub]

end Occurrence

namespace Grammar

variable {g : Grammar} {values other : Supply}

/-- The token with the content at the place, if it is well formed and its name is supplied. -/
def occurrence? (g : Grammar) (values : Supply) (found : Nat × Text) : Option Occurrence :=
  match g.token? found.2 with
  | .ok token => if values.supplies token.name then some ⟨found.1, found.2, token.name⟩ else none
  | .error _ => none

theorem occurrence?_eq_some_iff {found : Nat × Text} {o : Occurrence} :
    g.occurrence? values found = some o ↔
      found = (o.place, o.content) ∧ Token.HasName g.separator o.content o.name ∧ values.supplies o.name = true := by
  obtain ⟨place, content⟩ := found
  obtain ⟨place', content', name⟩ := o
  unfold occurrence?
  constructor
  · intro h
    split at h
    · rename_i token htoken
      split at h
      · rename_i hsupplied
        obtain ⟨rfl, rfl, rfl⟩ := Occurrence.mk.inj (Option.some.inj h)
        exact ⟨rfl, exists_token?_iff_hasName.1 ⟨token, htoken, rfl⟩, hsupplied⟩
      · simp at h
    · simp at h
  · rintro ⟨heq, hname, hsupplied⟩
    obtain ⟨rfl, rfl⟩ := Prod.mk.inj heq
    obtain ⟨token, htoken, rfl⟩ := exists_token?_iff_hasName.2 hname
    simp only [htoken]
    exact if_pos hsupplied

/-- A token that is replaced becomes the value of its name, and any other token stays. -/
theorem fillPiece_token (halike : ∀ name, other.supplies name = values.supplies name) (place : Nat) (content : Text) :
    g.fillPiece other (.token content) =
      match g.occurrence? values (place, content) with
      | some o => (other o.name).getD []
      | none => (Piece.token content).raw g.parameter := by
  rw [fillPiece, occurrence?]
  cases g.token? content with
  | error fault => rfl
  | ok token =>
    have hsupplies : (other token.name).isSome = values.supplies token.name := halike token.name
    dsimp only
    rw [← hsupplies]
    cases hvalue : other token.name with
    | none => rfl
    | some value => simp [hvalue]

/-- To fill pieces is to replace tokens of the text that the pieces make up. -/
theorem flatMap_fillPiece_eq_replaced (halike : ∀ name, other.supplies name = values.supplies name) (start : Nat)
    (ps : List Piece) :
    ps.flatMap (g.fillPiece other) =
      Occurrence.replaced other start (ps.flatMap (Piece.raw g.parameter))
        ((Piece.tokensFrom start ps).filterMap (g.occurrence? values)) := by
  -- the tokens of later pieces stand behind the piece at the front
  have behind (place : Nat) (ps : List Piece) :
      ∀ o ∈ (Piece.tokensFrom place ps).filterMap (g.occurrence? values), place ≤ o.place := by
    intro o ho
    obtain ⟨found, hfound, ho⟩ := List.mem_filterMap.1 ho
    have hplace : found.1 = o.place := congrArg Prod.fst (occurrence?_eq_some_iff.1 ho).1
    exact hplace ▸ Piece.le_of_mem_tokensFrom hfound
  induction ps generalizing start with
  | nil => rfl
  | cons p ps ih =>
    cases p with
    | text t =>
      rw [List.flatMap_cons, List.flatMap_cons, Piece.tokensFrom, ih (start + t.length)]
      exact (Occurrence.replaced_append (behind _ ps) _).symm
    | token content =>
      have hlength : ((Piece.token content).raw g.parameter).length = content.length + 2 := by simp [Piece.raw]
      have hnext : start + ((Piece.token content).raw g.parameter).length = start + content.length + 2 := by
        rw [hlength, Nat.add_assoc]
      rw [List.flatMap_cons, List.flatMap_cons, fillPiece_token halike start, ih (start + content.length + 2),
        Piece.tokensFrom]
      cases hfound : g.occurrence? values (start, content) with
      | none =>
        rw [List.filterMap_cons_none hfound, Occurrence.replaced_append (hnext ▸ behind _ ps), hnext]
      | some o =>
        obtain ⟨rfl, rfl⟩ := Prod.mk.inj (occurrence?_eq_some_iff.1 hfound).1
        have hdrop : o.stop - o.place = ((Piece.token o.content).raw g.parameter).length := by
          rw [hlength, Occurrence.stop]
          omega
        rw [List.filterMap_cons_some hfound, Occurrence.replaced, Nat.sub_self, List.take_zero, hdrop, List.drop_left]
        rfl

/-! ## The tokens of a text -/

/-- The tokens of a text that are replaced, from left to right. -/
def occurrences (g : Grammar) (values : Supply) (t : Text) : List Occurrence :=
  (Piece.tokensFrom 0 (g.parameter.pieces t)).filterMap (g.occurrence? values)

theorem mem_tokensFrom_zero_pieces {t content : Text} {place : Nat} :
    (place, content) ∈ Piece.tokensFrom 0 (g.parameter.pieces t) ↔ g.parameter.TokenAt t place content := by
  rw [Brackets.mem_tokensFrom_pieces g.parameter_opening_ne_closing]
  simp only [Nat.zero_add, exists_eq_left']

theorem mem_occurrences_iff {t : Text} {o : Occurrence} :
    o ∈ g.occurrences values t ↔ g.parameter.TokenAt t o.place o.content ∧
      Token.HasName g.separator o.content o.name ∧ values.supplies o.name = true := by
  unfold occurrences
  rw [List.mem_filterMap, ← mem_tokensFrom_zero_pieces]
  simp only [occurrence?_eq_some_iff]
  constructor
  · rintro ⟨found, hfound, rfl, h⟩
    exact ⟨hfound, h⟩
  · rintro ⟨hfound, h⟩
    exact ⟨_, hfound, rfl, h⟩

/-- Each of the tokens ends where the next one begins, or before. -/
theorem apart_occurrences (g : Grammar) (values : Supply) (t : Text) :
    (g.occurrences values t).Pairwise fun o p => o.stop ≤ p.place := by
  unfold occurrences
  rw [List.pairwise_filterMap]
  refine (Piece.apart_tokensFrom 0 (g.parameter.pieces t)).imp fun happart o ho p hp => ?_
  rw [(occurrence?_eq_some_iff.1 ho).1, (occurrence?_eq_some_iff.1 hp).1] at happart
  exact happart

/-- Any two tokens of a text are the same, or one of them ends before the other begins. -/
theorem disjoint_of_tokenAt {t content content' : Text} {i j : Nat} (hi : g.parameter.TokenAt t i content)
    (hj : g.parameter.TokenAt t j content') :
    i = j ∧ content = content' ∨ i + content.length + 2 ≤ j ∨ j + content'.length + 2 ≤ i := by
  let apart (o p : Nat × Text) : Prop := o.1 + o.2.length + 2 ≤ p.1 ∨ p.1 + p.2.length + 2 ≤ o.1
  have hpairwise : (Piece.tokensFrom 0 (g.parameter.pieces t)).Pairwise apart :=
    (Piece.apart_tokensFrom 0 (g.parameter.pieces t)).imp Or.inl
  have : Std.Symm apart := ⟨fun _ _ => Or.symm⟩
  by_cases heq : (i, content) = (j, content')
  · exact Or.inl (Prod.mk.inj heq)
  · exact Or.inr (hpairwise.forall (mem_tokensFrom_zero_pieces.2 hi) (mem_tokensFrom_zero_pieces.2 hj) heq)

/-- Whatever the values are, the tokens whose names are supplied are replaced by them. -/
theorem substitute_eq_replaced_of_supplies (halike : ∀ name, other.supplies name = values.supplies name) (t : Text) :
    g.substitute other t = Occurrence.replaced other 0 t (g.occurrences values t) := by
  have hfill := flatMap_fillPiece_eq_replaced (g := g) halike 0 (g.parameter.pieces t)
  rwa [Brackets.flatMap_raw_pieces] at hfill

/-- Without a value for any of its tokens a text is left alone. -/
theorem substitute_eq_self {t : Text} (hnone : ∀ place content name, g.parameter.TokenAt t place content →
    Token.HasName g.separator content name → values name = none) : g.substitute values t = t := by
  have hempty : g.occurrences values t = [] := by
    rw [List.eq_nil_iff_forall_not_mem]
    intro o ho
    obtain ⟨htoken, hname, hsupplied⟩ := mem_occurrences_iff.1 ho
    rw [Supply.supplies, hnone _ _ _ htoken hname] at hsupplied
    simp at hsupplied
  have hreplaced : g.substitute values t = Occurrence.replaced values 0 t (g.occurrences values t) :=
    substitute_eq_replaced_of_supplies (fun _ => rfl) t
  rw [hreplaced, hempty]
  rfl

/-- Filling replaces exactly the tokens that are well formed and whose names are supplied. No two tokens share a
character, the values play no role in what is replaced, and where nothing is supplied nothing changes. -/
theorem substitute_eq_replaced (g : Grammar) (values : Supply) (t : Text) :
    (∀ i content j content', g.parameter.TokenAt t i content → g.parameter.TokenAt t j content' →
      i = j ∧ content = content' ∨ i + content.length + 2 ≤ j ∨ j + content'.length + 2 ≤ i) ∧
    (∃ occurrences : List Occurrence,
      occurrences.Pairwise (fun o p => o.stop ≤ p.place) ∧
      (∀ o, o ∈ occurrences ↔ g.parameter.TokenAt t o.place o.content ∧
        Token.HasName g.separator o.content o.name ∧ values.supplies o.name = true) ∧
      ∀ other : Supply, (∀ name, other.supplies name = values.supplies name) →
        g.substitute other t = Occurrence.replaced other 0 t occurrences) ∧
    ((∀ place content name, g.parameter.TokenAt t place content → Token.HasName g.separator content name →
      values name = none) → g.substitute values t = t) ∧
    g.substitute (fun _ => none) t = t := by
  refine ⟨?disjoint, ⟨g.occurrences values t, g.apart_occurrences values t, ?tokens, ?replaced⟩, ?unsupplied, ?empty⟩
  case disjoint => exact fun i content j content' hi hj => disjoint_of_tokenAt hi hj
  case tokens => exact fun o => mem_occurrences_iff
  case replaced => exact fun other halike => substitute_eq_replaced_of_supplies halike t
  case unsupplied => exact substitute_eq_self
  case empty => exact substitute_eq_self fun _ _ _ _ _ => rfl

/-- Among stray bounds, a faulty token and one without a value, one token is replaced, by a value that is not read. -/
example : standard.substitute (.ofPairs [("a".toList, "{b}".toList)]) "{{a:x}}{a:x:y}{b}[\x7ba".toList =
    "{{b}}{a:x:y}{b}[\x7ba".toList := by
  decide +kernel

end Grammar

end PathTemplate
