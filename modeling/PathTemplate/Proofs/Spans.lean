/-
# PathTemplate.Proofs.Spans — where the first span of a text lies.

The text before the first span holds neither bound, and text without bounds in front of a text moves the first
span along and changes nothing else about it. So a span that has been replaced by text without bounds plays no
further role when the text is scanned again.
-/
import PathTemplate.Brackets

namespace PathTemplate.Brackets

variable {b : Brackets}

/-- The text holds neither of the two bounds. -/
def Free (b : Brackets) (t : Text) : Prop := ∀ c ∈ t, b.isBound c = false

instance (b : Brackets) (t : Text) : Decidable (b.Free t) :=
  List.decidableBAll (b.isBound · = false) t

@[simp] theorem free_nil : b.Free [] := by
  intro c hc
  simp at hc

theorem free_cons {c : Char} {t : Text} : b.Free (c :: t) ↔ b.isBound c = false ∧ b.Free t := by
  simp [Free]

theorem free_append {s t : Text} : b.Free (s ++ t) ↔ b.Free s ∧ b.Free t := by
  simp only [Free, List.mem_append]
  constructor
  · intro h
    exact ⟨fun c hc => h c (Or.inl hc), fun c hc => h c (Or.inr hc)⟩
  · rintro ⟨hs, ht⟩ c (hc | hc)
    · exact hs c hc
    · exact ht c hc

theorem isBound_eq_false_iff {c : Char} :
    b.isBound c = false ↔ c ≠ b.opening ∧ c ≠ b.closing := by
  simp [isBound]

/-- A text without bounds holds no opening one. -/
theorem count_opening_of_free {t : Text} (h : b.Free t) : t.count b.opening = 0 := by
  apply List.count_eq_zero.2
  intro hmem
  exact (isBound_eq_false_iff.1 (h _ hmem)).1 rfl

/-! ## The text before a span -/

/-- The first span begins at the first bound of the text. -/
theorem free_before {t : Text} {span : Span} (h : b.firstSpan? t = some span) : b.Free span.before := by
  induction t generalizing span with
  | nil => simp [firstSpan?] at h
  | cons c rest ih =>
    simp only [firstSpan?] at h
    split at h
    · obtain ⟨⟨inside, after⟩, _, rfl⟩ := Option.map_eq_some_iff.1 h
      exact free_nil
    · split at h
      · simp at h
      · rename_i hopening hclosing
        obtain ⟨s, hs, rfl⟩ := Option.map_eq_some_iff.1 h
        exact free_cons.2 ⟨isBound_eq_false_iff.2 ⟨hopening, hclosing⟩, ih hs⟩

/-- Text without bounds in front only makes the part before the span longer. -/
theorem firstSpan?_append_of_free {x t : Text} (hx : b.Free x) :
    b.firstSpan? (x ++ t) = (b.firstSpan? t).map fun span => { span with before := x ++ span.before } := by
  induction x with
  | nil => simp
  | cons c x ih =>
    obtain ⟨hc, hfree⟩ := free_cons.1 hx
    obtain ⟨hopening, hclosing⟩ := isBound_eq_false_iff.1 hc
    rw [List.cons_append, firstSpan?, if_neg hopening, if_neg hclosing, ih hfree, Option.map_map]
    rfl

/-! ## Fewer spans -/

/-- A span has an opening bound that its interior and the text after it lack. -/
theorem count_opening_span {t : Text} {span : Span} (h : b.firstSpan? t = some span) :
    span.interior.count b.opening + span.after.count b.opening < t.count b.opening := by
  rw [firstSpan?_append h]
  -- the opening bound of the span itself is the one that is counted on the right only
  simp only [Span.text, List.count_append, List.count_cons_self, List.cons_append]
  omega

end PathTemplate.Brackets
