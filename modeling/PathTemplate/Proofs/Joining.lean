/-
# PathTemplate.Proofs.Joining — the pattern of a sequence is joined from those of its segments.

A compiler puts each segment in front of the pattern of what follows. The same pattern comes about when the patterns of
the segments are put behind one another, and that has no direction: it is associative. `pattern?_induction` turns this
into a rule of induction for everything that is true of sequences together with their patterns.
-/
import Mathlib.Logic.Basic
import PathTemplate.Compiler
import PathTemplate.Proofs.Reading

namespace PathTemplate

namespace Pattern

/-- The texts behind one another, and the parameters of both. -/
instance : Append Pattern := ⟨fun p q => ⟨p.text ++ q.text, p.parameterNames ++ q.parameterNames⟩⟩

/-- A pattern without parameters. -/
def ofText (t : Text) : Pattern := ⟨t, []⟩

/-- The group of one parameter. -/
def ofGroup (name fragment : Text) : Pattern := empty.attachGroup name fragment

/-- A pattern that may be left out. -/
def optional (body : Pattern) : Pattern := ofText "(?:".toList ++ body ++ ofText ")?".toList

theorem append_empty (p : Pattern) : p ++ empty = p :=
  congrArg₂ mk (List.append_nil _) (List.append_nil _)

theorem append_assoc (p q r : Pattern) : p ++ q ++ r = p ++ (q ++ r) :=
  congrArg₂ mk (List.append_assoc ..) (List.append_assoc ..)

theorem attachGroup_eq_append (name fragment : Text) (p : Pattern) :
    p.attachGroup name fragment = ofGroup name fragment ++ p :=
  congrArg₂ mk (List.append_assoc _ [')'] _).symm rfl

theorem parameterNames_optional (body : Pattern) : body.optional.parameterNames = body.parameterNames :=
  List.append_nil _

theorem attachOptional_eq_append (body p : Pattern) : attachOptional body p = body.optional ++ p :=
  congrArg₂ mk rfl (congrArg (· ++ p.parameterNames) (parameterNames_optional body).symm)

end Pattern

namespace Compiler

variable {compiler : Compiler} {token : Token} {body rest s : Sequence} {p : Pattern} {fault : Error}

/-- The pattern of a parameter alone. -/
def parameterPattern? (compiler : Compiler) (token : Token) : Except Error Pattern :=
  if token.isIdentifier then (compiler.fragment? token).map (Pattern.ofGroup token.name)
  else .ok (Pattern.ofText (Pattern.escape token.raw))

theorem parameterNames_of_parameterPattern? (h : compiler.parameterPattern? token = .ok p) :
    p.parameterNames = if token.isIdentifier then [token.name] else [] := by
  rw [parameterPattern?] at h
  by_cases hidentifier : token.isIdentifier = true
  · rw [if_pos hidentifier] at h ⊢
    obtain ⟨fragment, -, rfl⟩ := map_eq_ok_iff.1 h
    rfl
  · rw [if_neg hidentifier] at h ⊢
    obtain rfl := Except.ok.inj h
    rfl

theorem pattern?_literal (t : Text) (rest : Sequence) :
    compiler.pattern? (.literal t rest) =
      (compiler.pattern? rest).map (Pattern.ofText (Pattern.escape t) ++ ·) := by
  rw [pattern?]
  cases compiler.pattern? rest <;> rfl

theorem pattern?_parameter_of_error (h : compiler.parameterPattern? token = .error fault) :
    compiler.pattern? (.parameter token rest) = .error fault := by
  rw [parameterPattern?] at h
  rw [pattern?]
  split at h
  · rename_i hidentifier
    rw [if_pos hidentifier, map_eq_error_iff.1 h]
    rfl
  · cases h

theorem pattern?_parameter_of_ok {own : Pattern} (h : compiler.parameterPattern? token = .ok own) :
    compiler.pattern? (.parameter token rest) = (compiler.pattern? rest).map (own ++ ·) := by
  rw [parameterPattern?] at h
  rw [pattern?]
  split at h
  · rename_i hidentifier
    obtain ⟨fragment, hfragment, rfl⟩ := map_eq_ok_iff.1 h
    rw [if_pos hidentifier, hfragment]
    cases compiler.pattern? rest with
    | error _ => rfl
    | ok p => exact congrArg Except.ok (Pattern.attachGroup_eq_append token.name fragment p)
  · rename_i hidentifier
    obtain rfl := Except.ok.inj h
    rw [if_neg hidentifier]
    cases compiler.pattern? rest <;> rfl

theorem pattern?_optional_of_error (h : compiler.pattern? body = .error fault) :
    compiler.pattern? (.optional body rest) = .error fault :=
  bind_eq_error_iff.2 (Or.inl h)

theorem pattern?_optional_of_ok {inner : Pattern} (h : compiler.pattern? body = .ok inner) :
    compiler.pattern? (.optional body rest) = (compiler.pattern? rest).map (inner.optional ++ ·) := by
  rw [pattern?, h]
  cases compiler.pattern? rest with
  | error _ => rfl
  | ok p => exact congrArg Except.ok (Pattern.attachOptional_eq_append inner p)

/-- A sequence has a pattern if its parameters have patterns. -/
theorem exists_pattern?_of_tokens (h : ∀ token ∈ s.tokens, ∃ own, compiler.parameterPattern? token = .ok own) :
    ∃ p, compiler.pattern? s = .ok p := by
  induction s with
  | nil => exact ⟨_, rfl⟩
  | literal t rest ih =>
    obtain ⟨p, hp⟩ := ih h
    rw [pattern?_literal, hp]
    exact ⟨_, rfl⟩
  | parameter token rest ih =>
    obtain ⟨own, hown⟩ := h token List.mem_cons_self
    obtain ⟨p, hp⟩ := ih fun other hother => h other (List.mem_cons_of_mem _ hother)
    rw [pattern?_parameter_of_ok hown, hp]
    exact ⟨_, rfl⟩
  | optional body rest ihBody ihRest =>
    obtain ⟨inner, hinner⟩ := ihBody fun token htoken => h token (List.mem_append_left _ htoken)
    obtain ⟨p, hp⟩ := ihRest fun token htoken => h token (List.mem_append_right _ htoken)
    rw [pattern?_optional_of_ok hinner, hp]
    exact ⟨_, rfl⟩

/-- What is true of sequences and their patterns, by induction on the segments. -/
theorem pattern?_induction {motive : Sequence → Pattern → Prop} (nil : motive .nil .empty)
    (literal : ∀ t rest p, motive rest p → motive (.literal t rest) (.ofText (Pattern.escape t) ++ p))
    (parameter : ∀ token rest own p, compiler.parameterPattern? token = .ok own → motive rest p →
      motive (.parameter token rest) (own ++ p))
    (optional : ∀ body rest inner p, motive body inner → motive rest p →
      motive (.optional body rest) (inner.optional ++ p))
    (h : compiler.pattern? s = .ok p) : motive s p := by
  induction s generalizing p with
  | nil =>
    obtain rfl := Except.ok.inj h
    exact nil
  | literal t rest ih =>
    rw [pattern?_literal] at h
    obtain ⟨q, hq, rfl⟩ := map_eq_ok_iff.1 h
    exact literal t rest q (ih hq)
  | parameter token rest ih =>
    cases hown : compiler.parameterPattern? token with
    | error fault =>
      rw [pattern?_parameter_of_error hown] at h
      cases h
    | ok own =>
      rw [pattern?_parameter_of_ok hown] at h
      obtain ⟨q, hq, rfl⟩ := map_eq_ok_iff.1 h
      exact parameter token rest own q hown (ih hq)
  | optional body rest ihBody ihRest =>
    cases hinner : compiler.pattern? body with
    | error fault =>
      rw [pattern?_optional_of_error hinner] at h
      cases h
    | ok inner =>
      rw [pattern?_optional_of_ok hinner] at h
      obtain ⟨q, hq, rfl⟩ := map_eq_ok_iff.1 h
      exact optional body rest inner q (ihBody hinner) (ihRest hq)

/-- The pattern of a sequence names the parameters that are identifiers. -/
theorem parameterNames_of_pattern? (h : compiler.pattern? s = .ok p) :
    p.parameterNames = (s.tokens.filter (·.isIdentifier)).map (·.name) := by
  refine pattern?_induction (motive := fun s p => p.parameterNames = (s.tokens.filter (·.isIdentifier)).map (·.name))
    ?nil ?literal ?parameter ?optional h
  case nil => rfl
  case literal => exact fun _ _ _ ih => ih
  case parameter =>
    intro token rest own q hown ih
    show own.parameterNames ++ q.parameterNames = _
    rw [parameterNames_of_parameterPattern? hown, ih, Sequence.tokens]
    by_cases hidentifier : token.isIdentifier = true
    · rw [if_pos hidentifier, List.filter_cons_of_pos hidentifier]
      rfl
    · rw [if_neg hidentifier, List.filter_cons_of_neg hidentifier]
      rfl
  case optional =>
    intro body rest inner q ihBody ihRest
    show inner.optional.parameterNames ++ q.parameterNames = _
    rw [Pattern.parameterNames_optional, ihBody, ihRest, Sequence.tokens, List.filter_append, List.map_append]

end Compiler

end PathTemplate
