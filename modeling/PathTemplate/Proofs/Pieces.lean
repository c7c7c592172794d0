/-
# PathTemplate.Proofs.Pieces — cutting text into tokens, piece by piece.

The pieces of a text make up the text again. Beyond that, the cut is local wherever no token can reach across:
ordinary text in front of a text is added to its first piece if it holds no opening bound, and also if it holds
no closing bound and the text after it does not begin the end of a token. A token in front is a piece of its own.
-/
import PathTemplate.Piece
import PathTemplate.Proofs.Spans

namespace PathTemplate

namespace Piece

variable {b : Brackets}

/-- Ordinary text in front of pieces. -/
def attachText (x : Text) (ps : List Piece) : List Piece := x.foldr attach ps

@[simp] theorem attachText_nil (ps : List Piece) : attachText [] ps = ps := rfl

@[simp] theorem attachText_cons (c : Char) (x : Text) (ps : List Piece) :
    attachText (c :: x) ps = attach c (attachText x ps) := rfl

/-- What is made of pieces one by one, with ordinary text as it stands, has the character in front as well. -/
theorem flatMap_attach {f : Piece → Text} (hf : ∀ t, f (.text t) = t) (c : Char) (ps : List Piece) :
    (attach c ps).flatMap f = c :: ps.flatMap f := by
  unfold attach
  split
  · simp [hf]
  · simp [hf]

theorem flatMap_attachText {f : Piece → Text} (hf : ∀ t, f (.text t) = t) (x : Text) (ps : List Piece) :
    (attachText x ps).flatMap f = x ++ ps.flatMap f := by
  induction x with
  | nil => rfl
  | cons c x ih => rw [attachText_cons, flatMap_attach hf, ih, List.cons_append]

/-- What is picked from the tokens alone does not change. -/
theorem filterMap_attach {α : Type} {f : Piece → Option α} (hf : ∀ t, f (.text t) = none) (c : Char)
    (ps : List Piece) : (attach c ps).filterMap f = ps.filterMap f := by
  unfold attach
  split
  · simp [hf]
  · simp [hf]

theorem filterMap_attachText {α : Type} {f : Piece → Option α} (hf : ∀ t, f (.text t) = none) (x : Text)
    (ps : List Piece) : (attachText x ps).filterMap f = ps.filterMap f := by
  induction x with
  | nil => rfl
  | cons c x ih => rw [attachText_cons, filterMap_attach hf, ih]

end Piece

namespace Brackets

variable {b : Brackets}

/-! ## One character at a time -/

@[simp] theorem pieces_nil : b.pieces [] = [] := by
  rw [pieces]

theorem pieces_cons_of_ne {c : Char} {t : Text} (hc : c ≠ b.opening) :
    b.pieces (c :: t) = Piece.attach c (b.pieces t) := by
  rw [pieces, if_neg hc]

theorem pieces_opening_of_none {t : Text} (h : b.content? t = none) :
    b.pieces (b.opening :: t) = Piece.attach b.opening (b.pieces t) := by
  rw [pieces, if_pos rfl]
  split
  · rename_i hsome
    rw [h] at hsome
    simp at hsome
  · rfl

theorem pieces_opening_of_some {t content after : Text} (h : b.content? t = some (content, after)) :
    b.pieces (b.opening :: t) = .token content :: b.pieces after := by
  rw [pieces, if_pos rfl]
  split
  · rename_i hsome
    rw [h] at hsome
    obtain ⟨rfl, rfl⟩ := Prod.mk.inj (Option.some.inj hsome)
    rfl
  · rename_i hnone
    rw [h] at hnone
    simp at hnone

/-- The pieces make up the text. -/
theorem flatMap_raw_pieces (b : Brackets) (t : Text) : (b.pieces t).flatMap (Piece.raw b) = t := by
  fun_induction pieces b t with
  | case1 => rfl
  | case2 rest content after h ih =>
    rw [content?_append h, List.flatMap_cons, ih]
    simp [Piece.raw]
  | case3 rest h ih => rw [Piece.flatMap_attach (fun _ => rfl), ih]
  | case4 c rest hc ih => rw [Piece.flatMap_attach (fun _ => rfl), ih]

/-! ## Tokens -/

/-- The content of a token holds no bound. -/
theorem content?_free {t content after : Text} (h : b.content? t = some (content, after)) :
    b.Free content := by
  induction t generalizing content after with
  | nil => simp [content?] at h
  | cons c rest ih =>
    simp only [content?] at h
    split at h
    · obtain ⟨rfl, rfl⟩ := Prod.mk.inj (Option.some.inj h)
      simp
    · split at h
      · simp at h
      · rename_i hclosing hopening
        obtain ⟨⟨inside, rest'⟩, hi, heq⟩ := Option.map_eq_some_iff.1 h
        obtain ⟨rfl, rfl⟩ := Prod.mk.inj heq
        exact free_cons.2 ⟨isBound_eq_false_iff.2 ⟨hopening, hclosing⟩, ih hi⟩

/-- A text without bounds and a closing bound are the content of a token and its end. -/
theorem content?_append_closing {content after : Text} (hfree : b.Free content) :
    b.content? (content ++ b.closing :: after) = some (content, after) := by
  induction content with
  | nil => simp [content?]
  | cons c content ih =>
    obtain ⟨hbound, hrest⟩ := free_cons.1 hfree
    obtain ⟨hopening, hclosing⟩ := isBound_eq_false_iff.1 hbound
    rw [List.cons_append, content?, if_neg hclosing, if_neg hopening, ih hrest]
    rfl

/-- A token in front of a text is a piece of its own. -/
theorem pieces_token_append {content after : Text} (hfree : b.Free content) :
    b.pieces ((Piece.token content).raw b ++ after) = .token content :: b.pieces after := by
  have hraw : (Piece.token content).raw b ++ after = b.opening :: (content ++ b.closing :: after) := by
    simp [Piece.raw]
  rw [hraw, pieces_opening_of_some (content?_append_closing hfree)]

/-- Every token among the pieces has a content without bounds. -/
theorem free_of_token_mem_pieces {t content : Text} (h : Piece.token content ∈ b.pieces t) :
    b.Free content := by
  have mem_attach {c : Char} {ps : List Piece} (h : Piece.token content ∈ Piece.attach c ps) :
      Piece.token content ∈ ps := by
    unfold Piece.attach at h
    split at h <;> simpa using h
  fun_induction pieces b t with
  | case1 => simp at h
  | case2 rest content' after hcontent ih =>
    rcases List.mem_cons.1 h with heq | h
    · obtain rfl := Piece.token.inj heq
      exact content?_free hcontent
    · exact ih h
  | case3 rest hnone ih => exact ih (mem_attach h)
  | case4 c rest hc ih => exact ih (mem_attach h)

/-! ## Ordinary text in front -/

/-- Where no token can end, text without closing bounds in front does not make one end. -/
theorem content?_append_of_not_closing {x t : Text} (hx : b.closing ∉ x) (ht : b.content? t = none) :
    b.content? (x ++ t) = none := by
  induction x with
  | nil => exact ht
  | cons c x ih =>
    obtain ⟨hc, hx⟩ : b.closing ≠ c ∧ b.closing ∉ x := by simpa using hx
    rw [List.cons_append, content?, if_neg (Ne.symm hc)]
    split
    · rfl
    · rw [ih hx]
      rfl

/-- Text in front in which no token begins, or none that could end, is ordinary text. -/
theorem pieces_append {x t : Text}
    (hx : b.opening ∉ x ∨ (b.closing ∉ x ∧ b.content? t = none)) :
    b.pieces (x ++ t) = Piece.attachText x (b.pieces t) := by
  induction x with
  | nil => rfl
  | cons c x ih =>
    have hih : b.pieces (x ++ t) = Piece.attachText x (b.pieces t) := by
      apply ih
      -- both cases of the hypothesis pass on to the rest of the text in front
      rcases hx with hx | ⟨hx, ht⟩
      · exact Or.inl (List.not_mem_of_not_mem_cons hx)
      · exact Or.inr ⟨List.not_mem_of_not_mem_cons hx, ht⟩
    rw [List.cons_append, Piece.attachText_cons, ← hih]
    by_cases hc : c = b.opening
    · subst hc
      -- an opening bound in front begins no token, because the token would have no end
      rcases hx with hx | ⟨hx, ht⟩
      · exact absurd List.mem_cons_self hx
      · exact pieces_opening_of_none
          (content?_append_of_not_closing (List.not_mem_of_not_mem_cons hx) ht)
    · exact pieces_cons_of_ne hc

/-! ## Text in two parts -/

/-- The last bound of the text is an opening one. -/
def EndsOpen (b : Brackets) (t : Text) : Prop := ∃ u v, t = u ++ b.opening :: v ∧ b.Free v

theorem EndsOpen.append {t : Text} (h : b.EndsOpen t) (x : Text) : b.EndsOpen (x ++ t) := by
  obtain ⟨u, v, rfl, hv⟩ := h
  exact ⟨x ++ u, v, by rw [List.append_assoc], hv⟩

theorem not_endsOpen_of_not_mem {t : Text} (h : b.opening ∉ t) : ¬ b.EndsOpen t := by
  rintro ⟨u, v, rfl, -⟩
  simp at h

/-- The last bound of a text is that of its second part, or the second part has none. -/
theorem EndsOpen.of_append {x t : Text} (h : b.EndsOpen (x ++ t)) : b.EndsOpen t ∨ b.Free t ∧ b.EndsOpen x := by
  obtain ⟨u, v, heq, hv⟩ := h
  rcases List.append_eq_append_iff.1 heq with ⟨w, rfl, ht⟩ | ⟨w, rfl, hw⟩
  · cases w with
    | nil => exact Or.inl ⟨[], v, ht, hv⟩
    | cons c w => exact Or.inl ⟨c :: w, v, ht, hv⟩
  · cases w with
    | nil => exact Or.inl ⟨[], v, by simpa using hw.symm, hv⟩
    | cons c w =>
      obtain ⟨rfl, rfl⟩ := List.cons.inj hw
      exact Or.inr ⟨(free_append.1 hv).2, u, w, rfl, (free_append.1 hv).1⟩

/-- A token ends in a closing bound. -/
theorem not_endsOpen_raw_append {content t : Text} (hne : b.opening ≠ b.closing) (ht : ¬ b.EndsOpen t) :
    ¬ b.EndsOpen ((Piece.token content).raw b ++ t) := by
  intro h
  rcases h.of_append with h | ⟨-, h⟩
  · exact ht h
  · rw [Piece.raw] at h
    rcases h.of_append with h | ⟨hfree, -⟩
    · exact not_endsOpen_of_not_mem (by simpa using hne) h
    · simp [Free, isBound] at hfree

theorem content?_append_of_free {x : Text} (hx : b.Free x) (t : Text) :
    b.content? (x ++ t) = (b.content? t).map fun (content, after) => (x ++ content, after) := by
  induction x with
  | nil => simp
  | cons c x ih =>
    obtain ⟨hc, hfree⟩ := free_cons.1 hx
    obtain ⟨hopening, hclosing⟩ := isBound_eq_false_iff.1 hc
    rw [List.cons_append, content?, if_neg hclosing, if_neg hopening, ih hfree, Option.map_map]
    rfl

/-- Where the first bound is an opening one, no token can end, whatever comes after. -/
theorem content?_append_of_not_free {x : Text} (hx : ¬ b.Free x) (hnone : b.content? x = none) (t : Text) :
    b.content? (x ++ t) = none := by
  induction x with
  | nil => exact absurd free_nil hx
  | cons c x ih =>
    rw [content?] at hnone
    rw [List.cons_append, content?]
    split at hnone
    · simp at hnone
    · rename_i hclosing
      rw [if_neg hclosing]
      split at hnone
      · rename_i hopening
        rw [if_pos hopening]
      · rename_i hopening
        have hrest : ¬ b.Free x := fun h => hx (free_cons.2 ⟨isBound_eq_false_iff.2 ⟨hopening, hclosing⟩, h⟩)
        rw [if_neg hopening, ih hrest (Option.map_eq_none_iff.1 hnone)]
        rfl

theorem content?_append_of_some {x content after : Text} (hx : b.content? x = some (content, after)) (t : Text) :
    b.content? (x ++ t) = some (content, after ++ t) := by
  have hparts := content?_append hx
  rw [hparts, List.append_assoc]
  exact content?_append_closing (content?_free hx)

/-- If no token reaches from the first part into the second, the parts can be cut apart. A token that does begins at
the last bound of the first part, and the second part begins with its end. -/
theorem flatMap_pieces_append {f : Piece → Text} (hf : ∀ t, f (.text t) = t) {x t : Text}
    (h : ¬ b.EndsOpen x ∨ b.content? t = none) :
    (b.pieces (x ++ t)).flatMap f = (b.pieces x).flatMap f ++ (b.pieces t).flatMap f := by
  have of_append {u v : Text} (h : ¬ b.EndsOpen (u ++ v) ∨ b.content? t = none) :
      ¬ b.EndsOpen v ∨ b.content? t = none :=
    h.imp_left fun h hv => h (hv.append u)
  fun_induction pieces b x with
  | case1 => rfl
  | case2 rest content after hcontent ih =>
    have hparts : b.opening :: rest = (b.opening :: content ++ [b.closing]) ++ after := by
      simp [content?_append hcontent]
    rw [hparts] at h
    rw [List.cons_append, pieces_opening_of_some (content?_append_of_some hcontent t), List.flatMap_cons,
      List.flatMap_cons, ih (of_append h), List.append_assoc]
  | case3 rest hcontent ih =>
    have hnone : b.content? (rest ++ t) = none := by
      by_cases hfree : b.Free rest
      · have ht : b.content? t = none := h.resolve_left fun h => h ⟨[], rest, rfl, hfree⟩
        rw [content?_append_of_free hfree, ht]
        rfl
      · exact content?_append_of_not_free hfree hcontent t
    rw [List.cons_append, pieces_opening_of_none hnone, Piece.flatMap_attach hf, Piece.flatMap_attach hf,
      ih (of_append (u := [b.opening]) h), List.cons_append]
  | case4 c rest hc ih =>
    rw [List.cons_append, pieces_cons_of_ne hc, Piece.flatMap_attach hf, Piece.flatMap_attach hf,
      ih (of_append (u := [c]) h), List.cons_append]

end Brackets

end PathTemplate
