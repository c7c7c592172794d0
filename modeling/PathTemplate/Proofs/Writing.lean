/-
# PathTemplate.Proofs.Writing — a template is written back as it was read.

To write a tree, write each literal as its text, each parameter as its token, and each optional segment as what is
below it between the two bounds of the grammar. A tree that was read is written as the text it was read from, so
reading loses nothing: no character is dropped, doubled or moved to another segment.

Nor is there a choice in how a text is cut. No literal is empty, and two literals never follow each other below one
node, as they would be one literal. Both come from the pieces of flat text; between two stretches of flat text there
is an optional segment.
-/
import Mathlib.Data.List.Chain
import PathTemplate.Proofs.Numbering
import PathTemplate.Proofs.Structure

namespace PathTemplate

/-! ## Writing -/

/-- The node as it is written, with what is written for the nodes below it. -/
def NodeKind.written (b : Brackets) (kind : NodeKind) (below : Text) : Text :=
  match kind with
  | root => below
  | literal t => t
  | parameter token => token.raw
  | optional => b.opening :: below ++ [b.closing]

/-- The node with the number and all that is below it, written with the bounds of optional segments. -/
def Outline.written (b : Brackets) (nodes : List Node) (n : Nat) : Text :=
  walk (fun _ kind below => kind.written b below) nodes n

namespace Sequence

theorem visited_append {α : Type} (visit : Nat → NodeKind → List α → List α) (next : Nat) (r s : Sequence) :
    (r ++ s).visited visit next = r.visited visit next ++ s.visited visit (next + r.size) := by
  induction r generalizing next with
  | nil => rfl
  | literal _ rest ih | parameter _ rest ih =>
    have hnumber : next + 1 + rest.size = next + (rest.size + 1) := by omega
    show _ ++ (rest ++ s).visited visit (next + 1) = _
    rw [ih, ← List.append_assoc, hnumber]
    rfl
  | optional body rest _ ih =>
    have hnumber : next + 1 + body.size + rest.size = next + (body.size + rest.size + 1) := by omega
    show _ ++ (rest ++ s).visited visit (next + 1 + body.size) = _
    rw [ih, ← List.append_assoc, hnumber]
    rfl

/-- A sequence without optional segments is written as its texts, one after the other. -/
theorem visited_written_of_optionals_eq_nil (b : Brackets) {s : Sequence} (h : s.optionals = []) (next : Nat) :
    s.visited (fun _ kind below => kind.written b below) next = s.texts.flatten := by
  induction s generalizing next with
  | nil => rfl
  | literal _ rest ih | parameter _ rest ih =>
    rw [visited, ih h, texts, List.flatten_cons]
    rfl
  | optional body rest _ _ => simp [optionals] at h

end Sequence

namespace Grammar

variable {g : Grammar}

/-- What a text is read as is written as the text. -/
theorem visited_written_of_read {t : Text} {s : Sequence} (h : g.sequence? t = .ok s) (next : Nat) :
    s.visited (fun _ kind below => kind.written g.option below) next = t := by
  refine sequence?_induction
    (motive := fun t s => ∀ next, s.visited (fun _ kind below => kind.written g.option below) next = t)
    ?flat ?span h next
  case flat =>
    intro t s _ hflat next
    rw [Sequence.visited_written_of_optionals_eq_nil _ (optionals_flat hflat), flatten_texts_flat hflat]
  case span =>
    intro t span before body after hsome hbefore ihbody ihafter next
    rw [Sequence.visited_append, Sequence.visited, ihbody, ihafter,
      Sequence.visited_written_of_optionals_eq_nil _ (optionals_flat hbefore), flatten_texts_flat hbefore,
      Brackets.firstSpan?_append hsome, List.append_assoc]
    rfl

end Grammar

/-! ## Literals -/

/-- Is the piece a run of ordinary text? -/
def Piece.IsText : Piece → Prop
  | text _ => True
  | token _ => False

/-- No run of text is empty, and no two runs are neighbours. -/
structure Piece.IsCanonical (ps : List Piece) : Prop where
  nonempty : text [] ∉ ps
  apart : ps.IsChain fun p q => ¬ (p.IsText ∧ q.IsText)

namespace Piece

theorem IsCanonical.attach {ps : List Piece} (h : IsCanonical ps) (c : Char) : IsCanonical (attach c ps) := by
  unfold Piece.attach
  split
  · rename_i t rest
    obtain ⟨hnonempty, hapart⟩ := h
    rw [List.isChain_cons] at hapart
    refine ⟨?_, List.isChain_cons.2 ⟨hapart.1, hapart.2⟩⟩
    simpa using (List.not_mem_of_not_mem_cons hnonempty)
  · rename_i hne
    refine ⟨by simpa using h.nonempty, List.isChain_cons.2 ⟨?_, h.apart⟩⟩
    -- the pieces do not begin with a run of text, or the character would have been joined to it
    rintro p hp ⟨-, htext⟩
    cases p with
    | text t =>
      obtain ⟨rest, rfl⟩ : ∃ rest, ps = .text t :: rest := by
        cases ps with
        | nil => simp at hp
        | cons q rest => exact ⟨rest, by simpa using hp⟩
      exact hne t rest rfl
    | token content => exact htext

theorem IsCanonical.token {ps : List Piece} (h : IsCanonical ps) (content : Text) :
    IsCanonical (.token content :: ps) := by
  refine ⟨by simpa using h.nonempty, List.isChain_cons.2 ⟨?_, h.apart⟩⟩
  rintro p - ⟨htext, -⟩
  exact htext

end Piece

theorem Brackets.isCanonical_pieces (b : Brackets) (t : Text) : Piece.IsCanonical (b.pieces t) := by
  fun_induction pieces b t with
  | case1 => exact ⟨List.not_mem_nil, List.IsChain.nil⟩
  | case2 rest content after h ih => exact ih.token content
  | case3 rest h ih => exact ih.attach _
  | case4 c rest hc ih => exact ih.attach c

namespace Sequence

/-- No literal is empty, and no literal follows another one. -/
def IsCanonical : Sequence → Prop
  | nil => True
  | literal t rest => t ≠ [] ∧ (∀ u later, rest ≠ literal u later) ∧ rest.IsCanonical
  | parameter _ rest => rest.IsCanonical
  | optional body rest => body.IsCanonical ∧ rest.IsCanonical

theorem IsCanonical.append_optional {before body after : Sequence} (hbefore : before.IsCanonical)
    (hbody : body.IsCanonical) (hafter : after.IsCanonical) : (before ++ optional body after).IsCanonical := by
  induction before with
  | nil => exact ⟨hbody, hafter⟩
  | literal t rest ih =>
    obtain ⟨hne, hnext, hrest⟩ := hbefore
    refine ⟨hne, ?_, ih hrest⟩
    intro u later heq
    cases rest with
    | literal v rest => exact hnext v rest rfl
    | _ => exact nomatch heq
  | parameter token rest ih => exact ih hbefore
  | optional body' rest _ ih => exact ⟨hbefore.1, ih hbefore.2⟩

end Sequence

namespace Grammar

variable {g : Grammar}

theorem isCanonical_flat {ps : List Piece} {s : Sequence} (h : g.flatSequence? ps = .ok s)
    (hcanonical : Piece.IsCanonical ps) : s.IsCanonical := by
  refine (flatSequence?_induction
    (motive := fun ps s => (∀ u later, s = .literal u later → ∃ rest, ps = .text u :: rest) ∧
      (Piece.IsCanonical ps → s.IsCanonical)) ?nil ?text ?token h).2 hcanonical
  case nil => exact ⟨by simp, fun _ => trivial⟩
  case text =>
    rintro t ps s ⟨hhead, ih⟩
    refine ⟨?_, fun hcanonical => ?_⟩
    · rintro u later heq
      obtain ⟨rfl, -⟩ := Sequence.literal.inj heq
      exact ⟨ps, rfl⟩
    · obtain ⟨hnonempty, hapart⟩ := hcanonical
      rw [List.isChain_cons] at hapart
      refine ⟨?_, ?_, ih ⟨List.not_mem_of_not_mem_cons hnonempty, hapart.2⟩⟩
      · rintro rfl
        exact hnonempty List.mem_cons_self
      · intro u later heq
        obtain ⟨rest, rfl⟩ := hhead u later heq
        exact hapart.1 (.text u) rfl ⟨trivial, trivial⟩
  case token =>
    rintro content token ps s - ⟨-, ih⟩
    refine ⟨by simp, fun hcanonical => ih ⟨List.not_mem_of_not_mem_cons hcanonical.nonempty, ?_⟩⟩
    exact (List.isChain_cons.1 hcanonical.apart).2

theorem isCanonical_of_read {t : Text} {s : Sequence} (h : g.sequence? t = .ok s) : s.IsCanonical := by
  refine sequence?_induction (motive := fun _ s => s.IsCanonical) ?flat ?span h
  case flat =>
    intro t s _ hflat
    exact isCanonical_flat hflat (Brackets.isCanonical_pieces _ t)
  case span =>
    intro t span before body after _ hbefore hbody hafter
    exact (isCanonical_flat hbefore (Brackets.isCanonical_pieces _ span.before)).append_optional hbody hafter

end Grammar

/-- The node with the number is a literal. -/
def Outline.IsLiteral (nodes : List Node) (n : Nat) : Prop :=
  ∃ t, (nodes[n]?).map (·.kind) = some (.literal t)

namespace Sequence

/-- The segments of a sequence of such a kind are cut likewise where they stand in a list of nodes. -/
theorem IsCanonical.isChain_childNumbers {nodes : List Node} {parent next : Nat} {s : Sequence} (h : s.IsCanonical)
    (hnodes : Outline.HoldsFrom nodes next (s.nodes parent next)) :
    (s.childNumbers next).IsChain fun m n => ¬ (Outline.IsLiteral nodes m ∧ Outline.IsLiteral nodes n) := by
  induction s generalizing next with
  | nil => exact List.IsChain.nil
  | literal t rest ih =>
    obtain ⟨-, hnext, hrest⟩ := h
    obtain ⟨-, hnodes⟩ := hnodes.of_cons
    refine List.isChain_cons.2 ⟨?_, ih hrest hnodes⟩
    rintro n hn ⟨-, u, hu⟩
    cases rest with
    | nil => simp [childNumbers] at hn
    | literal v later => exact hnext v later rfl
    | parameter token later | optional body later =>
      obtain rfl : next + 1 = n := by simpa [childNumbers] using hn
      rw [hnodes.of_cons.1] at hu
      simp at hu
  | parameter token rest ih =>
    obtain ⟨hnode, hnodes⟩ := hnodes.of_cons
    refine List.isChain_cons.2 ⟨?_, ih h hnodes⟩
    rintro n - ⟨⟨u, hu⟩, -⟩
    rw [hnode] at hu
    simp at hu
  | optional body rest _ ih =>
    obtain ⟨hnode, hnodes⟩ := hnodes.of_cons
    have hrest := hnodes.of_append.2
    rw [length_nodes] at hrest
    refine List.isChain_cons.2 ⟨?_, ih h.2 hrest⟩
    rintro n - ⟨⟨u, hu⟩, -⟩
    rw [hnode] at hu
    simp at hu

theorem IsCanonical.of_mem_nodes {nodes : List Node} {parent next : Nat} {s : Sequence} (h : s.IsCanonical)
    (hnodes : Outline.HoldsFrom nodes next (s.nodes parent next)) {node : Node}
    (hnode : node ∈ s.nodes parent next) :
    node.kind ≠ .literal [] ∧
      node.children.IsChain fun m n => ¬ (Outline.IsLiteral nodes m ∧ Outline.IsLiteral nodes n) := by
  induction s generalizing parent next with
  | nil => simp [Sequence.nodes] at hnode
  | literal t rest ih =>
    rcases List.mem_cons.1 hnode with rfl | hnode
    · exact ⟨by simpa using h.1, List.IsChain.nil⟩
    · exact ih h.2.2 hnodes.of_cons.2 hnode
  | parameter token rest ih =>
    rcases List.mem_cons.1 hnode with rfl | hnode
    · exact ⟨by simp, List.IsChain.nil⟩
    · exact ih h hnodes.of_cons.2 hnode
  | optional body rest ihb ihr =>
    obtain ⟨hbody, hrest⟩ := hnodes.of_cons.2.of_append
    rw [length_nodes] at hrest
    rw [Sequence.nodes, List.mem_cons, List.mem_append] at hnode
    rcases hnode with rfl | hnode | hnode
    · exact ⟨by simp, h.1.isChain_childNumbers hbody⟩
    · exact ihb h.1 hbody hnode
    · exact ihr h.2 hrest hnode

end Sequence

/-! ## The tree of a template -/

/-- The outline of a template that was read is written as its source. -/
theorem Template.written_outline {g : Grammar} {source : Text} {template : Template}
    (hparse : Template.parse? g source = .ok template) : Outline.written g.option template.outline 0 = source := by
  obtain ⟨rfl, hread⟩ := Template.sequence?_of_parse? hparse
  unfold Outline.written
  rw [Template.walk_outline]
  exact Grammar.visited_written_of_read hread 1

/-- Reading loses nothing, and there is one way to cut a text: the nodes of a template are written as its source,
no literal is empty, no two literals follow each other below a node, and only one text is read as these nodes. -/
theorem written_of_parse? (g : Grammar) (source : Text) (template : Template)
    (hparse : Template.parse? g source = .ok template) :
    Outline.written g.option template.outline 0 = source ∧
    (∀ node ∈ template.outline, node.kind ≠ .literal [] ∧
      node.children.IsChain fun m n =>
        ¬ (Outline.IsLiteral template.outline m ∧ Outline.IsLiteral template.outline n)) ∧
    ∀ otherSource other, Template.parse? g otherSource = .ok other → other.outline = template.outline →
      otherSource = source := by
  refine ⟨Template.written_outline hparse, ?canonical, ?unique⟩
  case canonical =>
    obtain ⟨-, hread⟩ := Template.sequence?_of_parse? hparse
    have hcanonical := Grammar.isCanonical_of_read hread
    intro node hnode
    rcases List.mem_cons.1 hnode with rfl | hnode
    · exact ⟨by simp, hcanonical.isChain_childNumbers template.holdsFrom_outline⟩
    · exact hcanonical.of_mem_nodes template.holdsFrom_outline hnode
  case unique =>
    intro otherSource other hother heq
    rw [← Template.written_outline hparse, ← Template.written_outline hother, heq]

/-- A parameter below a segment, and stray bounds of both kinds behind it. -/
theorem written_of_parse?_stray :
    ∃ template, Template.parse? .standard "/t[/{id:digits}[x]]y]\x7b[z".toList = .ok template ∧
      Outline.written Grammar.standard.option template.outline 0 = "/t[/{id:digits}[x]]y]\x7b[z".toList := by
  let inner : Sequence := .literal "/".toList
    (.parameter ⟨"id".toList, some "digits".toList, "{id:digits}".toList⟩ (.optional (.literal "x".toList .nil) .nil))
  have hparse : Template.parse? .standard "/t[/{id:digits}[x]]y]\x7b[z".toList =
      .ok ⟨"/t[/{id:digits}[x]]y]\x7b[z".toList, .standard,
        .literal "/t".toList (.optional inner (.literal "y]\x7b[z".toList .nil))⟩ := by
    decide +kernel
  exact ⟨_, hparse, (written_of_parse? .standard _ _ hparse).1⟩

end PathTemplate
