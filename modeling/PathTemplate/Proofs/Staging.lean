/-
# PathTemplate.Proofs.Staging — filling a text in stages.

Some values are at hand now, the others later. The second stage does not fill the text of the first one: values stand
where tokens stood, next to stray bounds and to the tokens that were left. If the stray bounds are all of one kind and
the first values hold no parameter bound, a text cannot tell the stages apart. No token forms, none vanishes, and the
two stages come to what all values would have come to at once.

Nothing is asked of the later values, which are put in last and not read again.
-/
import PathTemplate.Proofs.Reversal

namespace PathTemplate

/-! ## Values of two supplies -/

/-- The values of the supply, and those of the other one for the names that it does not supply. -/
def Supply.backedBy (values later : Supply) : Supply := fun name => (values name).or (later name)

theorem Supply.backedBy_self (values : Supply) : values.backedBy values = values := by
  funext name
  exact Option.or_self

/-! ## Stray bounds of one kind -/

/-- No ordinary text among the pieces holds an opening bound, or none holds a closing one. -/
def Piece.OneSided (b : Brackets) (ps : List Piece) : Prop :=
  (∀ t, text t ∈ ps → b.opening ∉ t) ∨ (∀ t, text t ∈ ps → b.closing ∉ t)

theorem Piece.OneSided.of_cons {b : Brackets} {p : Piece} {ps : List Piece} (h : OneSided b (p :: ps)) :
    OneSided b ps :=
  h.imp (fun h t ht => h t (List.mem_cons_of_mem _ ht)) fun h t ht => h t (List.mem_cons_of_mem _ ht)

/-- A token begins with an opening bound, whether or not its content is well formed, so none can end before it. -/
theorem Brackets.content?_token_append {b : Brackets} (hne : b.opening ≠ b.closing) (content t : Text) :
    b.content? ((Piece.token content).raw b ++ t) = none := by
  rw [Piece.raw, List.cons_append, List.cons_append, content?, if_neg hne, if_pos rfl]

/-! ## The two stages -/

namespace Grammar

variable {g : Grammar} {values later : Supply}

/-- The first stage puts a value without bounds in the place of a token, or leaves the token to the second one. -/
theorem fillPiece_token_cases (hvalues : ∀ name value, values name = some value → g.parameter.Free value)
    (later : Supply) (content : Text) :
    (g.parameter.Free (g.fillPiece values (.token content)) ∧
        g.fillPiece (values.backedBy later) (.token content) = g.fillPiece values (.token content)) ∨
      (g.fillPiece values (.token content) = (Piece.token content).raw g.parameter ∧
        g.fillPiece (values.backedBy later) (.token content) = g.fillPiece later (.token content)) := by
  cases htoken : g.token? content with
  | error fault =>
    have hfill (supply : Supply) : g.fillPiece supply (.token content) = (Piece.token content).raw g.parameter := by
      rw [fillPiece, htoken]
    exact Or.inr ⟨hfill _, (hfill _).trans (hfill _).symm⟩
  | ok token =>
    have hfill (supply : Supply) : g.fillPiece supply (.token content) =
        (supply token.name).getD ((Piece.token content).raw g.parameter) := by
      rw [fillPiece, htoken]
    rw [hfill, hfill, hfill, Supply.backedBy]
    cases hvalue : values token.name with
    | none => exact Or.inr ⟨rfl, by rw [Option.none_or]⟩
    | some value => exact Or.inl ⟨hvalues token.name value hvalue, by rw [Option.some_or]⟩

/-- Where no stray bound is a closing one, a filled text does not begin with the end of a token. -/
theorem content?_flatMap_fillPiece (hvalues : ∀ name value, values name = some value → g.parameter.Free value)
    {ps : List Piece} (hclosing : ∀ t, .text t ∈ ps → g.parameter.closing ∉ t) :
    g.parameter.content? (ps.flatMap (g.fillPiece values)) = none := by
  induction ps with
  | nil => rfl
  | cons p ps ih =>
    have hrest := ih fun t ht => hclosing t (List.mem_cons_of_mem _ ht)
    rw [List.flatMap_cons]
    cases p with
    | text t => exact Brackets.content?_append_of_not_closing (hclosing t List.mem_cons_self) hrest
    | token content =>
      rcases fillPiece_token_cases hvalues values content with ⟨hfree, -⟩ | ⟨hraw, -⟩
      · rw [Brackets.content?_append_of_free hfree, hrest]
        rfl
      · rw [hraw]
        exact Brackets.content?_token_append g.parameter_opening_ne_closing content _

/-- The tokens of a filled text are those that were left, so filling it fills these. -/
theorem substitute_flatMap_fillPiece (hvalues : ∀ name value, values name = some value → g.parameter.Free value)
    {ps : List Piece} (hfree : ∀ content, .token content ∈ ps → g.parameter.Free content)
    (hside : Piece.OneSided g.parameter ps) :
    g.substitute later (ps.flatMap (g.fillPiece values)) = ps.flatMap (g.fillPiece (values.backedBy later)) := by
  induction ps with
  | nil => simp [substitute]
  | cons p ps ih =>
    have hrest := ih (fun content hcontent => hfree content (List.mem_cons_of_mem _ hcontent)) hside.of_cons
    rw [List.flatMap_cons, List.flatMap_cons, ← hrest]
    cases p with
    | text t =>
      -- no token begins in the text, or none that begins in it could end behind it
      have hapart : g.parameter.opening ∉ t ∨ (g.parameter.closing ∉ t ∧
          g.parameter.content? (ps.flatMap (g.fillPiece values)) = none) :=
        hside.imp (fun h => h t List.mem_cons_self) fun h => ⟨h t List.mem_cons_self,
          content?_flatMap_fillPiece hvalues fun u hu => h u (List.mem_cons_of_mem _ hu)⟩
      exact substitute_append hapart
    | token content =>
      rcases fillPiece_token_cases hvalues later content with ⟨hvalue, heq⟩ | ⟨hraw, heq⟩
      · have hopening : g.parameter.opening ∉ g.fillPiece values (.token content) := fun h =>
          (Brackets.isBound_eq_false_iff.1 (hvalue _ h)).1 rfl
        rw [heq, substitute_append (Or.inl hopening)]
      · rw [hraw, heq, substitute, Brackets.pieces_token_append (hfree content List.mem_cons_self),
          List.flatMap_cons]
        rfl

/-- Filling a text with values that hold no parameter bound, and what results with others, is filling it once with
both. So filling it with the same values again changes nothing. -/
theorem substitute_substitute (g : Grammar) (t : Text) (values later : Supply)
    (hside : Piece.OneSided g.parameter (g.parameter.pieces t))
    (hvalues : ∀ name value, values name = some value → g.parameter.Free value) :
    g.substitute later (g.substitute values t) = g.substitute (values.backedBy later) t ∧
      g.substitute values (g.substitute values t) = g.substitute values t := by
  have hstages (later : Supply) :
      g.substitute later (g.substitute values t) = g.substitute (values.backedBy later) t :=
    substitute_flatMap_fillPiece hvalues (fun _ => Brackets.free_of_token_mem_pieces) hside
  refine ⟨hstages later, ?_⟩
  rw [hstages values, Supply.backedBy_self]

/-- Among stray opening bounds and faulty tokens, the first value looks like the end of a segment, and the second one
like a token. -/
theorem substitute_substitute_stray :
    let text : Text := "\x7b/{a}[\x7b{b:x:y}{}/{b}{c}".toList
    let values : Supply := .ofPairs [("a".toList, "1]:".toList)]
    let later : Supply := .ofPairs [("a".toList, "2".toList), ("b".toList, "{c}".toList)]
    Piece.OneSided standard.parameter (standard.parameter.pieces text) ∧
      (∀ name value, values name = some value → standard.parameter.Free value) ∧
      standard.substitute values text = "\x7b/1]:[\x7b{b:x:y}{}/{b}{c}".toList ∧
      standard.substitute later (standard.substitute values text) = "\x7b/1]:[\x7b{b:x:y}{}/{c}{c}".toList := by
  intro text values later
  have hpieces : standard.parameter.pieces text =
      [.text "\x7b/".toList, .token "a".toList, .text "[\x7b".toList, .token "b:x:y".toList, .token [],
        .text "/".toList, .token "b".toList, .token "c".toList] := by
    decide +kernel
  have hside : Piece.OneSided standard.parameter (standard.parameter.pieces text) := by
    rw [hpieces]
    refine Or.inr fun t ht => ?_
    simp only [List.mem_cons, Piece.text.injEq, reduceCtorEq, List.not_mem_nil, or_false, false_or] at ht
    rcases ht with rfl | rfl | rfl <;> decide
  have hvalues : ∀ name value, values name = some value → standard.parameter.Free value := by
    intro name value h
    simp only [values, Supply.ofPairs, List.lookup_cons] at h
    split at h
    · obtain rfl := Option.some.inj h
      decide +kernel
    · simp at h
  refine ⟨hside, hvalues, by decide +kernel, ?_⟩
  rw [(substitute_substitute standard text values later hside hvalues).1]
  decide +kernel

end Grammar

end PathTemplate
