/-
# PathTemplate.Proofs.Renaming — which characters a grammar has does not matter.

Rename all characters one to one, those of the grammar and those of a template alike. Then every function on templates
gives what it gave before, renamed in the same way: the same tree with other letters in it, the same faults at the same
tokens, the same segments kept and dropped. Values by name are renamed as well, so that a renamed name has the renamed
value.

So no function knows a bound by anything but the grammar. In particular it plays no role how many bytes a bound takes
up, nor whether it is a letter that names and values are made of.
-/
import Mathlib.Logic.Equiv.Defs
import Mathlib.Data.List.Nodup
import PathTemplate.Outline
import PathTemplate.Proofs.Reading
import PathTemplate.Reverse

namespace PathTemplate

/-! ## Renaming -/

section Renaming

variable (σ : Equiv.Perm Char)

def Brackets.rename (b : Brackets) : Brackets := ⟨σ b.opening, σ b.closing⟩

def Delimiters.rename (d : Delimiters) : Delimiters := ⟨d.option.rename σ, d.parameter.rename σ, σ d.separator⟩

theorem Delimiters.characters_rename (d : Delimiters) : (d.rename σ).characters = d.characters.map σ := rfl

/-- The grammar with its five characters renamed. -/
def Grammar.rename (g : Grammar) : Grammar where
  toDelimiters := g.toDelimiters.rename σ
  distinct := by
    rw [Delimiters.characters_rename]
    exact g.distinct.map σ.injective

def Span.rename (span : Span) : Span := ⟨span.before.map σ, span.interior.map σ, span.after.map σ⟩

def Piece.rename : Piece → Piece
  | text t => text (t.map σ)
  | token content => token (content.map σ)

def Token.rename (token : Token) : Token where
  name := token.name.map σ
  typeName := token.typeName.map (·.map σ)
  raw := token.raw.map σ

def Sequence.rename : Sequence → Sequence
  | nil => nil
  | literal t rest => literal (t.map σ) rest.rename
  | parameter token rest => parameter (token.rename σ) rest.rename
  | optional body rest => optional body.rename rest.rename

/-- The template with all of its texts renamed, and its grammar with them. -/
def Template.rename (t : Template) : Template where
  source := t.source.map σ
  grammar := t.grammar.rename σ
  segments := t.segments.rename σ

def NodeKind.rename : NodeKind → NodeKind
  | root => root
  | literal t => literal (t.map σ)
  | parameter token => parameter (token.rename σ)
  | optional => optional

/-- The node with its text renamed. Its number, its parent and its children stay. -/
def Node.rename (node : Node) : Node := { node with kind := node.kind.rename σ }

/-- The error with what it quotes from a template renamed. -/
def Error.rename : Error → Error
  | invalidParameter token fault => invalidParameter (token.map σ) fault
  | unknownType name => unknownType (name.map σ)
  | irreversible template unresolved => irreversible (template.map σ) (unresolved.map (·.map σ))
  | e => e

/-- The values renamed, each under its renamed name. -/
def Supply.rename (values : Supply) : Supply := fun name => (values (name.map σ.symm)).map (·.map σ)

def Settled.rename (s : Settled) : Settled := ⟨s.filled.map σ, s.pruned.map σ⟩

/-- A result renamed, be it a value or an error. -/
def renameResult {α : Type} (f : α → α) (result : Except Error α) : Except Error α :=
  (result.map f).mapError (Error.rename σ)

end Renaming

variable {σ : Equiv.Perm Char}

theorem Supply.rename_apply (values : Supply) (name : Text) :
    values.rename σ (name.map σ) = (values name).map (·.map σ) := by
  unfold Supply.rename
  rw [List.map_map, Equiv.symm_comp_self, List.map_id]

theorem Supply.supplies_rename (values : Supply) (name : Text) :
    (values.rename σ).supplies (name.map σ) = values.supplies name := by
  unfold supplies
  rw [rename_apply, Option.isSome_map]

/-! ## Spans and pieces -/

namespace Brackets

variable {b : Brackets}

theorem eq_opening_rename {c : Char} : σ c = (b.rename σ).opening ↔ c = b.opening := σ.injective.eq_iff

theorem eq_closing_rename {c : Char} : σ c = (b.rename σ).closing ↔ c = b.closing := σ.injective.eq_iff

theorem isBound_rename (c : Char) : (b.rename σ).isBound (σ c) = b.isBound c := by
  rw [Bool.eq_iff_iff]
  unfold isBound
  simp only [Bool.or_eq_true, beq_iff_eq, eq_opening_rename, eq_closing_rename]

theorem interior?_rename (depth : Nat) (t : Text) :
    (b.rename σ).interior? depth (t.map σ) =
      (b.interior? depth t).map fun (inside, after) => (inside.map σ, after.map σ) := by
  induction t generalizing depth with
  | nil => rfl
  | cons c rest ih =>
    simp only [List.map_cons, interior?, eq_opening_rename, eq_closing_rename, ih]
    split
    · rw [Option.map_map, Option.map_map]
      rfl
    · split
      · cases depth with
        | zero => rfl
        | succ outer =>
          dsimp only
          rw [Option.map_map, Option.map_map]
          rfl
      · rw [Option.map_map, Option.map_map]
        rfl

theorem firstSpan?_rename (t : Text) :
    (b.rename σ).firstSpan? (t.map σ) = (b.firstSpan? t).map (Span.rename σ) := by
  induction t with
  | nil => rfl
  | cons c rest ih =>
    rw [List.map_cons, firstSpan?, firstSpan?, interior?_rename, ih]
    simp only [eq_opening_rename, eq_closing_rename]
    split
    · rw [Option.map_map, Option.map_map]
      rfl
    · split
      · rfl
      · rw [Option.map_map, Option.map_map]
        rfl

theorem content?_rename (t : Text) :
    (b.rename σ).content? (t.map σ) = (b.content? t).map fun (content, after) => (content.map σ, after.map σ) := by
  induction t with
  | nil => rfl
  | cons c rest ih =>
    rw [List.map_cons, content?, content?, ih]
    simp only [eq_opening_rename, eq_closing_rename]
    split
    · rfl
    · split
      · rfl
      · rw [Option.map_map, Option.map_map]
        rfl

end Brackets

namespace Piece

theorem attach_rename (c : Char) (ps : List Piece) :
    attach (σ c) (ps.map (rename σ)) = (attach c ps).map (rename σ) := by
  cases ps with
  | nil => rfl
  | cons p ps => cases p <;> rfl

theorem raw_rename (b : Brackets) (p : Piece) : (p.rename σ).raw (b.rename σ) = (p.raw b).map σ := by
  cases p with
  | text t => rfl
  | token content =>
    unfold raw rename
    simp [Brackets.rename]

end Piece

theorem Brackets.pieces_rename (b : Brackets) (t : Text) :
    (b.rename σ).pieces (t.map σ) = (b.pieces t).map (Piece.rename σ) := by
  have hopening : σ b.opening = (b.rename σ).opening := rfl
  fun_induction pieces b t with
  | case1 => exact pieces_nil
  | case2 rest content after h ih =>
    have hcontent : (b.rename σ).content? (rest.map σ) = some (content.map σ, after.map σ) := by
      rw [content?_rename, h]
      rfl
    rw [List.map_cons, hopening, pieces_opening_of_some hcontent, ih]
    rfl
  | case3 rest h ih =>
    have hcontent : (b.rename σ).content? (rest.map σ) = none := by
      rw [content?_rename, h]
      rfl
    rw [List.map_cons, hopening, pieces_opening_of_none hcontent, ih, ← hopening, Piece.attach_rename]
  | case4 c rest hc ih =>
    have hne : σ c ≠ (b.rename σ).opening := fun h => hc (eq_opening_rename.1 h)
    rw [List.map_cons, pieces_cons_of_ne hne, ih, Piece.attach_rename]

/-! ## Reading -/

theorem Token.ofContent?_rename (separator : Char) (raw content : Text) :
    ofContent? (σ separator) (raw.map σ) (content.map σ) = (ofContent? separator raw content).map (rename σ) := by
  have hseparator : (fun c => c != σ separator) ∘ σ = fun c => c != separator := by
    funext c
    exact congrArg not σ.injective.beq_eq
  have hcontains (t : Text) : (t.map σ).contains (σ separator) = t.contains separator := by
    rw [Bool.eq_iff_iff, List.contains_iff_mem, List.contains_iff_mem, List.mem_map_of_injective σ.injective]
  unfold ofContent?
  dsimp only
  rw [List.takeWhile_map, List.dropWhile_map, hseparator, ← List.map_drop, hcontains, List.isEmpty_map,
    List.isEmpty_map]
  split
  · rfl
  · split
    · rfl
    · split <;> rfl

namespace Sequence

theorem rename_append (r s : Sequence) : (r ++ s).rename σ = r.rename σ ++ s.rename σ := by
  induction r with
  | nil => rfl
  | literal t rest ih => exact congrArg (literal _) ih
  | parameter token rest ih => exact congrArg (parameter _) ih
  | optional body rest _ ih => exact congrArg (optional _) ih

end Sequence

namespace Grammar

variable {g : Grammar} {values : Supply}

theorem token?_rename (content : Text) :
    (g.rename σ).token? (content.map σ) = (g.token? content).map (Token.rename σ) := by
  unfold token?
  rw [← Token.ofContent?_rename, ← Piece.raw_rename]
  rfl

theorem flatSequence?_rename (ps : List Piece) :
    (g.rename σ).flatSequence? (ps.map (Piece.rename σ)) =
      renameResult σ (Sequence.rename σ) (g.flatSequence? ps) := by
  induction ps with
  | nil => rfl
  | cons p ps ih =>
    cases p with
    | text t =>
      rw [List.map_cons, Piece.rename, flatSequence?, flatSequence?, ih]
      cases g.flatSequence? ps <;> rfl
    | token content =>
      rw [List.map_cons, Piece.rename, flatSequence?, flatSequence?, ih, token?_rename]
      cases g.token? content with
      | error fault =>
        show Except.error (Error.invalidParameter ((Piece.token (content.map σ)).raw (g.parameter.rename σ)) fault) =
          Except.error (Error.invalidParameter (((Piece.token content).raw g.parameter).map σ) fault)
        rw [← Piece.raw_rename]
        rfl
      | ok token => cases g.flatSequence? ps <;> rfl

theorem pieces_rename (g : Grammar) (t : Text) :
    (g.rename σ).parameter.pieces (t.map σ) = (g.parameter.pieces t).map (Piece.rename σ) :=
  Brackets.pieces_rename g.parameter t

theorem sequence?_rename (t : Text) :
    (g.rename σ).sequence? (t.map σ) = renameResult σ (Sequence.rename σ) (g.sequence? t) := by
  have hoption : (g.rename σ).option = g.option.rename σ := rfl
  induction hn : t.length using Nat.strongRecOn generalizing t with
  | ind n ih =>
    subst hn
    cases hspan : g.option.firstSpan? t with
    | none =>
      have hspan' : (g.rename σ).option.firstSpan? (t.map σ) = none := by
        rw [hoption, Brackets.firstSpan?_rename, hspan]
        rfl
      rw [sequence?_of_none hspan, sequence?_of_none hspan', pieces_rename, flatSequence?_rename]
    | some span =>
      have hspan' : (g.rename σ).option.firstSpan? (t.map σ) = some (span.rename σ) := by
        rw [hoption, Brackets.firstSpan?_rename, hspan]
        rfl
      obtain ⟨hinterior, hafter⟩ := Brackets.firstSpan?_length hspan
      rw [sequence?_of_some hspan, sequence?_of_some hspan']
      unfold Span.rename
      rw [pieces_rename, flatSequence?_rename, ih _ hinterior _ rfl, ih _ hafter _ rfl]
      -- the first part that fails decides, before and after the renaming
      cases g.flatSequence? (g.parameter.pieces span.before) with
      | error e => rfl
      | ok before =>
        cases g.sequence? span.interior with
        | error e => rfl
        | ok body =>
          cases g.sequence? span.after with
          | error e => rfl
          | ok after => exact congrArg Except.ok (Sequence.rename_append before (.optional body after)).symm

end Grammar

theorem Template.parse?_rename (g : Grammar) (source : Text) :
    Template.parse? (g.rename σ) (source.map σ) = renameResult σ (Template.rename σ) (Template.parse? g source) := by
  unfold Template.parse?
  rw [Grammar.sequence?_rename]
  cases g.sequence? source <;> rfl

/-! ## The nodes of a template -/

namespace Sequence

theorem size_rename (s : Sequence) : (s.rename σ).size = s.size := by
  induction s with
  | nil => rfl
  | literal _ rest ih | parameter _ rest ih => exact congrArg (· + 1) ih
  | optional body rest ihb ihr => rw [rename, size, size, ihb, ihr]

theorem childNumbers_rename (next : Nat) (s : Sequence) : (s.rename σ).childNumbers next = s.childNumbers next := by
  induction s generalizing next with
  | nil => rfl
  | literal _ rest ih | parameter _ rest ih => exact congrArg (next :: ·) (ih _)
  | optional body rest _ ih => rw [rename, childNumbers, childNumbers, size_rename, ih]

theorem nodes_rename (parent next : Nat) (s : Sequence) :
    (s.rename σ).nodes parent next = (s.nodes parent next).map (Node.rename σ) := by
  induction s generalizing parent next with
  | nil => rfl
  | literal _ rest ih | parameter _ rest ih =>
    rw [rename, nodes, nodes, ih]
    rfl
  | optional body rest ihb ihr =>
    rw [rename, nodes, nodes, ihb, ihr, childNumbers_rename, size_rename, List.map_cons, List.map_append]
    rfl

end Sequence

theorem Template.outline_rename (t : Template) : (t.rename σ).outline = t.outline.map (Node.rename σ) := by
  unfold outline rename
  dsimp only
  rw [Sequence.childNumbers_rename, Sequence.nodes_rename]
  rfl

/-! ## Reversing -/

/-- Where a function is one to one, elements are equal after it only if they were before. -/
theorem eraseDups_map {α β : Type} [BEq α] [LawfulBEq α] [BEq β] [LawfulBEq β] {f : α → β}
    (hf : Function.Injective f) (as : List α) : (as.map f).eraseDups = as.eraseDups.map f := by
  induction hn : as.length using Nat.strongRecOn generalizing as with
  | ind n ih =>
    cases as with
    | nil => rfl
    | cons a rest =>
      have hshorter : (rest.filter fun b => !b == a).length < n := by
        have := List.length_filter_le (fun b => !b == a) rest
        rw [← hn, List.length_cons]
        omega
      have hsame : (fun b => !b == f a) ∘ f = fun b => !b == a := by
        funext b
        exact congrArg not hf.beq_eq
      rw [List.map_cons, List.eraseDups_cons, List.eraseDups_cons, List.filter_map, hsame, ih _ hshorter _ rfl,
        List.map_cons]

namespace Grammar

variable {g : Grammar} {values : Supply}

theorem fillPiece_rename (p : Piece) :
    (g.rename σ).fillPiece (values.rename σ) (p.rename σ) = (g.fillPiece values p).map σ := by
  cases p with
  | text t => rfl
  | token content =>
    have hraw : (Piece.token (content.map σ)).raw (g.rename σ).parameter =
        ((Piece.token content).raw g.parameter).map σ :=
      Piece.raw_rename g.parameter (.token content)
    rw [Piece.rename, fillPiece, fillPiece, token?_rename, hraw]
    cases g.token? content with
    | error fault => rfl
    | ok token =>
      show (values.rename σ (token.name.map σ)).getD _ = ((values token.name).getD _).map σ
      rw [Supply.rename_apply]
      cases values token.name <;> rfl

theorem substitute_rename (t : Text) :
    (g.rename σ).substitute (values.rename σ) (t.map σ) = (g.substitute values t).map σ := by
  unfold substitute
  rw [pieces_rename, List.flatMap_map, List.map_flatMap]
  simp only [fillPiece_rename]

theorem isReversed_rename (t : Text) : (g.rename σ).isReversed (t.map σ) = g.isReversed t := by
  have hbound : (g.rename σ).isBound ∘ σ = g.isBound := by
    funext c
    exact congrArg₂ or (Brackets.isBound_rename c) (Brackets.isBound_rename c)
  unfold isReversed containsBound
  rw [List.any_map, hbound]

theorem unresolvedNames_rename (t : Text) :
    (g.rename σ).unresolvedNames (values.rename σ) (t.map σ) = (g.unresolvedNames values t).map (·.map σ) := by
  unfold unresolvedNames
  rw [pieces_rename, List.filterMap_map, ← eraseDups_map (List.map_injective_iff.2 σ.injective), List.map_filterMap]
  congr 2
  funext p
  cases p with
  | text t => rfl
  | token content =>
    dsimp only [Function.comp_apply, Piece.rename]
    rw [token?_rename]
    cases g.token? content with
    | error fault => rfl
    | ok token =>
      show (if (values.rename σ).supplies (token.name.map σ) then none else some (token.name.map σ)) =
        (if values.supplies token.name then none else some token.name).map (·.map σ)
      rw [Supply.supplies_rename]
      split <;> rfl

end Grammar

theorem Sequence.settle_rename (g : Grammar) (values : Supply) (s : Sequence) :
    (s.rename σ).settle (g.rename σ) (values.rename σ) = (s.settle g values).rename σ := by
  induction s with
  | nil => rfl
  | literal t rest ih =>
    rw [rename, settle, settle, ih]
    unfold Settled.attach Settled.rename
    simp only [List.map_append]
  | parameter token rest ih =>
    rw [rename, settle, settle, ih]
    unfold Settled.attach Settled.rename Token.rename
    simp only [List.map_append]
  | optional body rest ihb ihr =>
    rw [rename, settle, settle, ihb, ihr]
    unfold Settled.rename
    dsimp only
    rw [Grammar.substitute_rename, Grammar.isReversed_rename]
    split
    · simp only [List.map_append]
    · rfl

namespace Grammar

theorem reverseTemplate_rename (g : Grammar) (template : Template) (values : Supply) :
    (g.rename σ).reverseTemplate (template.rename σ) (values.rename σ) =
      renameResult σ (List.map σ) (g.reverseTemplate template values) := by
  unfold reverseTemplate Template.rename
  dsimp only
  rw [Sequence.settle_rename]
  unfold Settled.rename
  dsimp only
  rw [substitute_rename, isReversed_rename, unresolvedNames_rename]
  split <;> rfl

end Grammar

/-- Renaming the characters of the grammar, the text and the values renames what comes out, and changes nothing else:
the tree that is read, node by node, or the fault; what tokens are filled to; what is left after pruning; and the path
that reversing gives, or its error with the template and the unresolved names. -/
theorem rename_commutes (σ : Equiv.Perm Char) (g : Grammar) (source : Text) (values : Supply) :
    Template.parse? (g.rename σ) (source.map σ) = renameResult σ (Template.rename σ) (Template.parse? g source) ∧
    (∀ template : Template, (template.rename σ).outline = template.outline.map (Node.rename σ)) ∧
    (g.rename σ).substitute (values.rename σ) (source.map σ) = (g.substitute values source).map σ ∧
    (g.rename σ).prune (source.map σ) (values.rename σ) = renameResult σ (List.map σ) (g.prune source values) ∧
    (g.rename σ).reverse (source.map σ) (values.rename σ) = renameResult σ (List.map σ) (g.reverse source values) := by
  have hparse := Template.parse?_rename (σ := σ) g source
  refine ⟨hparse, Template.outline_rename, Grammar.substitute_rename source, ?prune, ?reverse⟩
  case prune =>
    unfold Grammar.prune
    rw [hparse]
    cases Template.parse? g source with
    | error e => rfl
    | ok template =>
      exact congrArg (fun s => Except.ok (Settled.pruned s)) (Sequence.settle_rename g values template.segments)
  case reverse =>
    unfold Grammar.reverse
    rw [hparse]
    cases Template.parse? g source with
    | error e => rfl
    | ok template => exact Grammar.reverseTemplate_rename g template values

end PathTemplate
