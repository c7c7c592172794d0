/-
# PathTemplate.Proofs.Reading — how the tree of a template comes from its text.

A text that is read either has no span, and then its segments are those of its pieces, or it has a first span,
and then its segments are those before the span, an optional one with the segments of the interior, and those
after the span. `sequence?_induction` turns this into a rule of induction for everything that is true of texts
together with their trees; the pieces between spans have `flatSequence?_induction`.
-/
import PathTemplate.Proofs.Pieces
import PathTemplate.Template

namespace PathTemplate

/-! ## Results that are values -/

theorem map_eq_ok_iff {ε α β : Type} {f : α → β} {x : Except ε α} {b : β} :
    x.map f = .ok b ↔ ∃ a, x = .ok a ∧ f a = b := by
  cases x <;> simp [Except.map]

theorem map_eq_error_iff {ε α β : Type} {f : α → β} {x : Except ε α} {e : ε} :
    x.map f = .error e ↔ x = .error e := by
  cases x <;> simp [Except.map]

theorem bind_eq_ok_iff {ε α β : Type} {x : Except ε α} {f : α → Except ε β} {b : β} :
    (x >>= f) = .ok b ↔ ∃ a, x = .ok a ∧ f a = .ok b := by
  cases x <;> simp [bind, Except.bind]

theorem bind_eq_error_iff {ε α β : Type} {x : Except ε α} {f : α → Except ε β} {e : ε} :
    (x >>= f) = .error e ↔ x = .error e ∨ ∃ a, x = .ok a ∧ f a = .error e := by
  cases x <;> simp [bind, Except.bind]

namespace Sequence

@[simp] theorem nil_append (s : Sequence) : nil ++ s = s := rfl

@[simp] theorem literal_append (t : Text) (rest s : Sequence) :
    literal t rest ++ s = literal t (rest ++ s) := rfl

@[simp] theorem parameter_append (token : Token) (rest s : Sequence) :
    parameter token rest ++ s = parameter token (rest ++ s) := rfl

@[simp] theorem optional_append (body rest s : Sequence) :
    optional body rest ++ s = optional body (rest ++ s) := rfl

@[simp] theorem append_nil (s : Sequence) : s ++ nil = s := by
  induction s with
  | nil => rfl
  | literal t rest ih => rw [literal_append, ih]
  | parameter token rest ih => rw [parameter_append, ih]
  | optional body rest _ ih => rw [optional_append, ih]

theorem append_assoc (r s u : Sequence) : (r ++ s) ++ u = r ++ (s ++ u) := by
  induction r with
  | nil => rfl
  | literal t rest ih => rw [literal_append, literal_append, literal_append, ih]
  | parameter token rest ih => rw [parameter_append, parameter_append, parameter_append, ih]
  | optional body rest _ ih => rw [optional_append, optional_append, optional_append, ih]

@[simp] theorem tokens_append (r s : Sequence) : (r ++ s).tokens = r.tokens ++ s.tokens := by
  induction r with
  | nil => rfl
  | literal t rest ih => rw [literal_append, tokens, tokens, ih]
  | parameter token rest ih => rw [parameter_append, tokens, tokens, ih, List.cons_append]
  | optional body rest _ ih => rw [optional_append, tokens, tokens, ih, List.append_assoc]

end Sequence

namespace Grammar

variable {g : Grammar}

/-! ## Tokens -/

/-- The token is what a token of the text with some content is read as. -/
def Reads (g : Grammar) (token : Token) (content : Text) : Prop :=
  g.parameter.Free content ∧ g.token? content = .ok token

/-- A token keeps the text that it was read from. -/
theorem raw_of_token? {content : Text} {token : Token} (h : g.token? content = .ok token) :
    token.raw = (Piece.token content).raw g.parameter := by
  unfold token? Token.ofContent? at h
  dsimp only at h
  split at h
  · simp at h
  · split at h
    · simp at h
    · obtain rfl := Except.ok.inj h
      rfl

/-! ## Flat text -/

/-- Induction along flat text and the sequence that it is read as. -/
theorem flatSequence?_induction {motive : List Piece → Sequence → Prop}
    (nil : motive [] .nil)
    (text : ∀ t ps s, motive ps s → motive (.text t :: ps) (.literal t s))
    (token : ∀ content token ps s, g.token? content = .ok token → motive ps s →
      motive (.token content :: ps) (.parameter token s))
    {ps : List Piece} {s : Sequence} (h : g.flatSequence? ps = .ok s) : motive ps s := by
  induction ps generalizing s with
  | nil =>
    obtain rfl := Except.ok.inj h
    exact nil
  | cons p ps ih =>
    cases p with
    | text t =>
      obtain ⟨rest, hrest, rfl⟩ := map_eq_ok_iff.1 h
      exact text t ps rest (ih hrest)
    | token content =>
      rw [flatSequence?] at h
      cases htoken : g.token? content with
      | error fault =>
        rw [htoken] at h
        simp at h
      | ok read =>
        rw [htoken] at h
        obtain ⟨rest, hrest, rfl⟩ := map_eq_ok_iff.1 h
        exact token content read ps rest htoken (ih hrest)

/-! ## Text with spans -/

theorem sequence?_of_none {t : Text} (h : g.option.firstSpan? t = none) :
    g.sequence? t = g.flatSequence? (g.parameter.pieces t) := by
  rw [sequence?]
  split
  · rfl
  · rename_i hsome
    rw [h] at hsome
    simp at hsome

theorem sequence?_of_some {t : Text} {span : Span} (h : g.option.firstSpan? t = some span) :
    g.sequence? t = do
      let before ← g.flatSequence? (g.parameter.pieces span.before)
      let body ← g.sequence? span.interior
      let after ← g.sequence? span.after
      return before ++ .optional body after := by
  rw [sequence?]
  split
  · rename_i hnone
    rw [h] at hnone
    simp at hnone
  · rename_i hsome
    rw [h] at hsome
    obtain rfl := Option.some.inj hsome
    rfl

/-- Induction along a text and the sequence that it is read as. -/
theorem sequence?_induction {motive : Text → Sequence → Prop}
    (flat : ∀ t s, g.option.firstSpan? t = none → g.flatSequence? (g.parameter.pieces t) = .ok s →
      motive t s)
    (span : ∀ t span before body after, g.option.firstSpan? t = some span →
      g.flatSequence? (g.parameter.pieces span.before) = .ok before →
      motive span.interior body → motive span.after after → motive t (before ++ .optional body after))
    {t : Text} {s : Sequence} (h : g.sequence? t = .ok s) : motive t s := by
  -- interior and rest of a span are shorter texts, not parts of the term, so the induction is on length
  induction hn : t.length using Nat.strongRecOn generalizing t s with
  | ind n ih =>
    subst hn
    cases hspan : g.option.firstSpan? t with
    | none =>
      rw [sequence?_of_none hspan] at h
      exact flat t s hspan h
    | some found =>
      obtain ⟨hinterior, hafter⟩ := Brackets.firstSpan?_length hspan
      rw [sequence?_of_some hspan] at h
      obtain ⟨before, hbefore, h⟩ := bind_eq_ok_iff.1 h
      obtain ⟨body, hbody, h⟩ := bind_eq_ok_iff.1 h
      obtain ⟨after, hafterRead, h⟩ := bind_eq_ok_iff.1 h
      obtain rfl := Except.ok.inj h
      exact span t found before body after hspan hbefore (ih _ hinterior hbody rfl)
        (ih _ hafter hafterRead rfl)

/-- The same induction, in which interior and rest of a span are also known to be read as their sequences. -/
theorem sequence?_induction_of_read {motive : Text → Sequence → Prop}
    (flat : ∀ t s, g.option.firstSpan? t = none → g.flatSequence? (g.parameter.pieces t) = .ok s →
      motive t s)
    (span : ∀ t span before body after, g.option.firstSpan? t = some span →
      g.flatSequence? (g.parameter.pieces span.before) = .ok before →
      g.sequence? span.interior = .ok body → g.sequence? span.after = .ok after →
      motive span.interior body → motive span.after after → motive t (before ++ .optional body after))
    {t : Text} {s : Sequence} (h : g.sequence? t = .ok s) : motive t s := by
  refine (sequence?_induction (motive := fun t s => g.sequence? t = .ok s ∧ motive t s) ?_ ?_ h).2
  · intro t s hnone hflat
    rw [sequence?_of_none hnone]
    exact ⟨hflat, flat t s hnone hflat⟩
  · rintro t found before body after hsome hbefore ⟨hbody, ihbody⟩ ⟨hafter, ihafter⟩
    refine ⟨?_, span t found before body after hsome hbefore hbody hafter ihbody ihafter⟩
    rw [sequence?_of_some hsome, hbefore, hbody, hafter]
    rfl

/-- Every token of a tree is what a token of some text is read as. -/
theorem reads_of_mem_tokens {t : Text} {s : Sequence} (h : g.sequence? t = .ok s) :
    ∀ token ∈ s.tokens, ∃ content, g.Reads token content := by
  -- the text between spans is flat, before the last span and after it alike
  have flat {t : Text} {s : Sequence} (h : g.flatSequence? (g.parameter.pieces t) = .ok s) :
      ∀ token ∈ s.tokens, ∃ content, g.Reads token content := by
    refine flatSequence?_induction
      (motive := fun ps s => (∀ content, Piece.token content ∈ ps → g.parameter.Free content) →
        ∀ token ∈ s.tokens, ∃ content, g.Reads token content)
      ?nil ?text ?token h fun content => Brackets.free_of_token_mem_pieces
    case nil => simp [Sequence.tokens]
    case text =>
      intro t ps s ih hfree
      exact ih fun content hcontent => hfree content (List.mem_cons_of_mem _ hcontent)
    case token =>
      intro content token ps s htoken ih hfree other hother
      rcases List.mem_cons.1 hother with rfl | hother
      · exact ⟨content, hfree content List.mem_cons_self, htoken⟩
      · exact ih (fun content hcontent => hfree content (List.mem_cons_of_mem _ hcontent)) other hother
  refine sequence?_induction
    (motive := fun _ s => ∀ token ∈ s.tokens, ∃ content, g.Reads token content) ?flat ?span h
  case flat =>
    intro t s _ hflat
    exact flat hflat
  case span =>
    intro t span before body after _ hbefore ihbody ihafter token htoken
    rw [Sequence.tokens_append, Sequence.tokens, List.mem_append, List.mem_append] at htoken
    rcases htoken with htoken | htoken | htoken
    · exact flat hbefore token htoken
    · exact ihbody token htoken
    · exact ihafter token htoken

end Grammar

/-! ## Templates -/

theorem Template.parse?_eq_ok_iff {g : Grammar} {source : Text} {template : Template} :
    Template.parse? g source = .ok template ↔
      ∃ segments, g.sequence? source = .ok segments ∧ template = ⟨source, g, segments⟩ := by
  rw [Template.parse?, map_eq_ok_iff]
  simp only [eq_comm]

theorem Template.sequence?_of_parse? {g : Grammar} {source : Text} {template : Template}
    (h : Template.parse? g source = .ok template) :
    source = template.source ∧ g.sequence? template.source = .ok template.segments := by
  obtain ⟨segments, hread, rfl⟩ := Template.parse?_eq_ok_iff.1 h
  exact ⟨rfl, hread⟩

end PathTemplate
