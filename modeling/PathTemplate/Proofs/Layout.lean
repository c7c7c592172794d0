/-
# PathTemplate.Proofs.Layout — optional segments as intervals, of numbers and of places.

The nodes below an optional segment follow it without a gap, and its text stands between its two bounds. So each
optional segment has two intervals, one among the numbers of the outline and one among the places of the source.
`Sequence.extents` walks over a tree and writes both down, and the rest of the module says that either interval
tells which segment is below which: the one of numbers because the nearest interval around a node belongs to its
parent, the one of places because both are nested in the same way.
-/
import Mathlib.Data.List.Infix
import Mathlib.Logic.Relation
import PathTemplate.Outline
import PathTemplate.Proofs.Pairing
import PathTemplate.Proofs.Reversal

namespace PathTemplate

/-! ## The outline -/

/-- The text that the node stands for itself. Bounds of optional segments belong to no node. -/
def NodeKind.text : NodeKind → Text
  | root => []
  | literal t => t
  | parameter token => token.raw
  | optional => []

namespace Template

/-- The numbers of the optional nodes in ascending order. -/
def optionalNumbers (t : Template) : List Nat :=
  (t.outline.zipIdx.filter fun entry => entry.1.kind = .optional).map (·.2)

/-- The node has the parent. -/
def IsChild (t : Template) (child parent : Nat) : Prop := (t.outline[child]?).bind (·.parent) = some parent

/-- The node is a descendant of the other. -/
def IsBelow (t : Template) : Nat → Nat → Prop := Relation.TransGen t.IsChild

end Template

/-! ## Extents -/

/-- The intervals of an optional segment. -/
structure Extent where
  number : Nat
  /-- The greatest number below the segment; its own number if it is empty. -/
  lastNumber : Nat
  opening : Nat
  closing : Nat
deriving DecidableEq, Repr

namespace Extent

/-- The places of the two bounds. -/
def bounds (e : Extent) : Nat × Nat := (e.opening, e.closing)

/-- The number belongs to a node below the segment. -/
def Covers (e : Extent) (n : Nat) : Prop := e.number < n ∧ n ≤ e.lastNumber

end Extent

namespace Sequence

/-- The number of characters that a sequence was read from. -/
def width : Sequence → Nat
  | nil => 0
  | literal t rest => t.length + rest.width
  | parameter token rest => token.raw.length + rest.width
  | optional body rest => body.width + 2 + rest.width

/-- The optional segments of a sequence in document order, if its first segment has number `next` and stands at
the place. -/
def extents (next place : Nat) : Sequence → List Extent
  | nil => []
  | literal t rest => rest.extents (next + 1) (place + t.length)
  | parameter token rest => rest.extents (next + 1) (place + token.raw.length)
  | optional body rest =>
    ⟨next, next + body.size, place, place + 1 + body.width⟩ ::
      (body.extents (next + 1) (place + 1) ++
        rest.extents (next + 1 + body.size) (place + body.width + 2))

/-- The texts of the nodes in document order. -/
def texts : Sequence → List Text
  | nil => []
  | literal t rest => t :: rest.texts
  | parameter token rest => token.raw :: rest.texts
  | optional body rest => [] :: (body.texts ++ rest.texts)

/-! ## Sequences one after the other -/

@[simp] theorem width_append (r s : Sequence) : (r ++ s).width = r.width + s.width := by
  induction r with
  | nil => rw [nil_append, width, Nat.zero_add]
  | literal t rest ih => rw [literal_append, width, width, ih, Nat.add_assoc]
  | parameter token rest ih => rw [parameter_append, width, width, ih, Nat.add_assoc]
  | optional body rest _ ih => rw [optional_append, width, width, ih, ← Nat.add_assoc]

theorem nodes_append (parent next : Nat) (r s : Sequence) :
    (r ++ s).nodes parent next = r.nodes parent next ++ s.nodes parent (next + r.size) := by
  induction r generalizing next with
  | nil => rfl
  | literal t rest ih =>
    rw [literal_append, nodes, nodes, ih, List.cons_append, size, Nat.add_right_comm, Nat.add_assoc]
  | parameter token rest ih =>
    rw [parameter_append, nodes, nodes, ih, List.cons_append, size, Nat.add_right_comm, Nat.add_assoc]
  | optional body rest _ ih =>
    have hnumber : next + 1 + body.size + rest.size = next + (body.size + rest.size + 1) := by omega
    rw [optional_append, nodes, nodes, ih, size, List.cons_append, List.append_assoc, hnumber]

theorem extents_append (next place : Nat) (r s : Sequence) :
    (r ++ s).extents next place = r.extents next place ++ s.extents (next + r.size) (place + r.width) := by
  induction r generalizing next place with
  | nil => rfl
  | literal t rest ih =>
    have hnumber : next + 1 + rest.size = next + (rest.size + 1) := by omega
    rw [literal_append, extents, extents, ih, size, width, hnumber, Nat.add_assoc]
  | parameter token rest ih =>
    have hnumber : next + 1 + rest.size = next + (rest.size + 1) := by omega
    rw [parameter_append, extents, extents, ih, size, width, hnumber, Nat.add_assoc]
  | optional body rest _ ih =>
    have hnumber : next + 1 + body.size + rest.size = next + (body.size + rest.size + 1) := by omega
    have hplace : place + body.width + 2 + rest.width = place + (body.width + 2 + rest.width) := by omega
    rw [optional_append, extents, extents, ih, size, width, List.cons_append, List.append_assoc, hnumber, hplace]

@[simp] theorem texts_append (r s : Sequence) : (r ++ s).texts = r.texts ++ s.texts := by
  induction r with
  | nil => rfl
  | literal t rest ih => rw [literal_append, texts, texts, ih, List.cons_append]
  | parameter token rest ih => rw [parameter_append, texts, texts, ih, List.cons_append]
  | optional body rest _ ih => rw [optional_append, texts, texts, ih, List.cons_append, List.append_assoc]

/-! ## Sequences without optional segments -/

theorem extents_of_optionals_eq_nil {s : Sequence} (h : s.optionals = []) (next place : Nat) :
    s.extents next place = [] := by
  induction s generalizing next place with
  | nil => rfl
  | literal _ rest ih | parameter _ rest ih => exact ih h _ _
  | optional body rest _ _ => simp [optionals] at h

theorem width_of_optionals_eq_nil {s : Sequence} (h : s.optionals = []) : s.width = s.texts.flatten.length := by
  induction s with
  | nil => rfl
  | literal _ rest ih | parameter _ rest ih => rw [width, texts, List.flatten_cons, List.length_append, ih h]
  | optional body rest _ _ => simp [optionals] at h

theorem nodes_of_optionals_eq_nil {s : Sequence} (h : s.optionals = []) {parent next : Nat} {node : Node}
    (hnode : node ∈ s.nodes parent next) :
    node.parent = some parent ∧ ((∃ t, node.kind = .literal t) ∨ ∃ token, node.kind = .parameter token) := by
  induction s generalizing next with
  | nil => simp [nodes] at hnode
  | literal t rest ih =>
    rcases List.mem_cons.1 hnode with rfl | hnode
    · exact ⟨rfl, Or.inl ⟨t, rfl⟩⟩
    · exact ih h hnode
  | parameter token rest ih =>
    rcases List.mem_cons.1 hnode with rfl | hnode
    · exact ⟨rfl, Or.inr ⟨token, rfl⟩⟩
    · exact ih h hnode
  | optional body rest _ _ => simp [optionals] at h

/-! ## The intervals of a sequence -/

theorem extent_range {next place : Nat} {s : Sequence} {e : Extent} (he : e ∈ s.extents next place) :
    next ≤ e.number ∧ e.number ≤ e.lastNumber ∧ e.lastNumber < next + s.size ∧
      place ≤ e.opening ∧ e.opening < e.closing ∧ e.closing < place + s.width := by
  induction s generalizing next place with
  | nil => simp [extents] at he
  | literal _ rest ih | parameter _ rest ih =>
    have := ih he
    rw [size, width]
    omega
  | optional body rest ihb ihr =>
    rw [extents, List.mem_cons, List.mem_append] at he
    rw [size, width]
    rcases he with rfl | he | he
    · dsimp only
      omega
    · have := ihb he
      omega
    · have := ihr he
      omega

/-- The segments come in the order of their opening bounds. -/
theorem pairwise_extents (next place : Nat) (s : Sequence) :
    (s.extents next place).Pairwise fun a b => a.opening < b.opening := by
  induction s generalizing next place with
  | nil => exact List.Pairwise.nil
  | literal _ rest ih | parameter _ rest ih => exact ih _ _
  | optional body rest ihb ihr =>
    rw [extents, List.pairwise_cons, List.pairwise_append]
    refine ⟨fun e he => ?_, ihb _ _, ihr _ _, fun a ha b hb => ?_⟩
    · dsimp only
      rcases List.mem_append.1 he with he | he
      · have := extent_range he
        omega
      · have := extent_range he
        omega
    · have := extent_range ha
      have := extent_range hb
      omega

/-- Of two segments, one covers the number of the other exactly if its bounds enclose those of the other. -/
theorem covers_iff_encloses {next place : Nat} {s : Sequence} {a b : Extent} (ha : a ∈ s.extents next place)
    (hb : b ∈ s.extents next place) :
    b.Covers a.number ↔ b.opening < a.opening ∧ a.closing < b.closing := by
  induction s generalizing next place with
  | nil => simp [extents] at ha
  | literal _ rest ih | parameter _ rest ih => exact ih ha hb
  | optional body rest ihb ihr =>
    -- two segments of the same part are as the induction says; otherwise their ranges decide
    rw [extents, List.mem_cons, List.mem_append] at ha hb
    rw [Extent.Covers]
    rcases ha with rfl | ha | ha <;> rcases hb with rfl | hb | hb
    · dsimp only
      omega
    · have := extent_range hb
      dsimp only
      omega
    · have := extent_range hb
      dsimp only
      omega
    · have := extent_range ha
      dsimp only
      omega
    · exact ihb ha hb
    · have := extent_range ha
      have := extent_range hb
      omega
    · have := extent_range ha
      dsimp only
      omega
    · have := extent_range ha
      have := extent_range hb
      omega
    · exact ihr ha hb

/-! ## The nodes of a sequence -/

theorem map_text_nodes (parent next : Nat) (s : Sequence) :
    (s.nodes parent next).map (·.kind.text) = s.texts := by
  induction s generalizing parent next with
  | nil => rfl
  | literal _ rest ih | parameter _ rest ih =>
    rw [nodes, List.map_cons, ih]
    rfl
  | optional body rest ihb ihr =>
    rw [nodes, List.map_cons, List.map_append, ihb, ihr]
    rfl

/-- The numbers of the optional nodes are those of the extents. -/
theorem optional_numbers (parent next place : Nat) (s : Sequence) :
    (((s.nodes parent next).zipIdx next).filter fun entry => entry.1.kind = .optional).map (·.2) =
      (s.extents next place).map (·.number) := by
  induction s generalizing parent next place with
  | nil => rfl
  | literal _ rest ih | parameter _ rest ih =>
    rw [nodes, List.zipIdx_cons, List.filter_cons_of_neg (by simp), extents]
    exact ih _ _ _
  | optional body rest ihb ihr =>
    rw [nodes, List.zipIdx_cons, List.filter_cons_of_pos (by simp), List.zipIdx_append, List.filter_append,
      length_nodes, List.map_cons, List.map_append, ihb next (next + 1) (place + 1),
      ihr parent (next + 1 + body.size) (place + body.width + 2), extents, List.map_cons, List.map_append]

/-- A node lies in the same intervals as its parent, but for the interval of the parent itself. -/
theorem covers_parent {parent next : Nat} {s : Sequence} (hparent : parent < next) {node : Node} {n : Nat}
    (hnode : (node, n) ∈ (s.nodes parent next).zipIdx next) :
    next ≤ n ∧ n < next + s.size ∧
      ∃ m, node.parent = some m ∧ (m = parent ∨ next ≤ m) ∧ m < n ∧
        ∀ place, ∀ e ∈ s.extents next place, e.Covers n ↔ e.number = m ∨ e.Covers m := by
  induction s generalizing parent next with
  | nil => simp [nodes] at hnode
  | literal _ rest ih | parameter _ rest ih =>
    rw [nodes, List.zipIdx_cons, List.mem_cons] at hnode
    rw [size]
    rcases hnode with heq | hnode
    · obtain ⟨rfl, rfl⟩ := Prod.mk.inj heq
      refine ⟨Nat.le_refl _, by omega, parent, rfl, Or.inl rfl, hparent, fun place e he => ?_⟩
      have := extent_range he
      rw [Extent.Covers, Extent.Covers]
      omega
    · obtain ⟨hle, hlt, m, hm, hmle, hmlt, hcovers⟩ := ih (by omega) hnode
      exact ⟨by omega, by omega, m, hm, by omega, hmlt, fun place => hcovers _⟩
  | optional body rest ihb ihr =>
    rw [nodes, List.zipIdx_cons, List.zipIdx_append, List.mem_cons, List.mem_append, length_nodes] at hnode
    rw [size]
    simp only [extents, List.forall_mem_cons, List.forall_mem_append, Extent.Covers] at ihb ihr ⊢
    -- extents of another part than the node's contain neither the node nor its parent
    rcases hnode with heq | hnode | hnode
    · obtain ⟨rfl, rfl⟩ := Prod.mk.inj heq
      refine ⟨Nat.le_refl _, by omega, parent, rfl, Or.inl rfl, hparent,
        fun place => ⟨by omega, fun e he => ?_, fun e he => ?_⟩⟩
      · have := extent_range he
        omega
      · have := extent_range he
        omega
    · obtain ⟨hle, hlt, m, hm, hmle, hmlt, hcovers⟩ := ihb (Nat.lt_succ_self next) hnode
      refine ⟨by omega, by omega, m, hm, by omega, hmlt, fun place => ⟨by omega, hcovers _, fun e he => ?_⟩⟩
      have := extent_range he
      omega
    · obtain ⟨hle, hlt, m, hm, hmle, hmlt, hcovers⟩ := ihr (by omega) hnode
      refine ⟨by omega, by omega, m, hm, by omega, hmlt, fun place => ⟨by omega, fun e he => ?_, hcovers _⟩⟩
      have := extent_range he
      omega

end Sequence

/-! ## Descendants -/

namespace Template

variable {t : Template}

/-- The optional segments of the template in document order. -/
def extents (t : Template) : List Extent := t.segments.extents 1 0

theorem optionalNumbers_eq (t : Template) : t.optionalNumbers = t.extents.map (·.number) := by
  rw [optionalNumbers, outline, List.zipIdx_cons, List.filter_cons_of_neg (by simp), extents]
  exact Sequence.optional_numbers 0 1 0 t.segments

/-- Every node but the root has a parent, which comes before it. -/
theorem exists_isChild {n : Nat} (hn : 0 < n) (hlt : n < t.outline.length) :
    ∃ m, t.IsChild n m ∧ m < n ∧ ∀ e ∈ t.extents, e.Covers n ↔ e.number = m ∨ e.Covers m := by
  obtain ⟨node, hnode⟩ : ∃ node, t.outline[n]? = some node := ⟨_, List.getElem?_eq_getElem hlt⟩
  have hentry : (node, n) ∈ t.outline.zipIdx := List.mem_zipIdx_iff_getElem?.2 hnode
  rw [outline, List.zipIdx_cons, List.mem_cons, Prod.mk.injEq] at hentry
  obtain ⟨-, -, m, hm, -, hmlt, hcovers⟩ :=
    Sequence.covers_parent Nat.zero_lt_one (hentry.resolve_left fun h => by omega)
  refine ⟨m, ?_, hmlt, hcovers 0⟩
  rw [IsChild, hnode]
  exact hm

theorem IsChild.lt_length {n m : Nat} (h : t.IsChild n m) : n < t.outline.length := by
  by_contra hge
  rw [IsChild, List.getElem?_eq_none (Nat.le_of_not_lt hge)] at h
  simp at h

/-- A child comes after its parent. -/
theorem IsChild.covers_iff {n m : Nat} (h : t.IsChild n m) :
    m < n ∧ ∀ e ∈ t.extents, e.Covers n ↔ e.number = m ∨ e.Covers m := by
  have hpos : 0 < n := by
    rcases Nat.eq_zero_or_pos n with rfl | hpos
    · simp [IsChild, outline] at h
    · exact hpos
  obtain ⟨m', hm', hcovers⟩ := exists_isChild hpos h.lt_length
  obtain rfl : m' = m := Option.some.inj (hm'.symm.trans h)
  exact hcovers

/-- The descendants of an optional node are the nodes with the numbers that it covers. -/
theorem isBelow_iff_covers {e : Extent} (he : e ∈ t.extents) {n : Nat} (hn : n < t.outline.length) :
    t.IsBelow n e.number ↔ e.Covers n := by
  constructor
  · intro h
    induction h using Relation.TransGen.head_induction_on with
    | single h => exact (h.covers_iff.2 e he).2 (Or.inl rfl)
    | head h _ ih =>
      have := h.covers_iff.1
      exact (h.covers_iff.2 e he).2 (Or.inr (ih (by omega)))
  · -- from a node that is covered, its parents lead to the segment, because every one of them is covered
    intro h
    induction n using Nat.strongRecOn with
    | ind n ih =>
      obtain ⟨m, hm, hmlt, hcovers⟩ := exists_isChild (Nat.zero_lt_of_lt h.1) hn
      rcases (hcovers e he).1 h with rfl | hcovered
      · exact Relation.TransGen.single hm
      · exact Relation.TransGen.head hm (ih m hmlt (by omega) hcovered)

theorem number_lt_length_outline {e : Extent} (he : e ∈ t.extents) : e.number < t.outline.length := by
  have := Sequence.extent_range he
  rw [length_outline, size]
  omega

/-- One optional node is below another exactly if its bounds lie inside the other's. -/
theorem isBelow_iff_encloses {a b : Extent} (ha : a ∈ t.extents) (hb : b ∈ t.extents) :
    t.IsBelow a.number b.number ↔ b.opening < a.opening ∧ a.closing < b.closing :=
  (isBelow_iff_covers hb (number_lt_length_outline ha)).trans (Sequence.covers_iff_encloses ha hb)

/-- The optional nodes with their bounds. -/
theorem zip_optionalNumbers (t : Template) :
    t.optionalNumbers.zip (t.extents.map Extent.bounds) = t.extents.map fun e => (e.number, e.bounds) := by
  rw [optionalNumbers_eq, List.zip_map']

end Template

/-! ## Depth -/

namespace Sequence

/-- Segments nest as deep as their bounds do. -/
theorem depth_eq_greatestNesting (next place : Nat) (s : Sequence) :
    s.depth = Pairing.greatestNesting ((s.extents next place).map Extent.bounds) := by
  induction s generalizing next place with
  | nil => rfl
  | literal _ rest ih | parameter _ rest ih => exact ih _ _
  | optional body rest ihb ihr =>
    rw [extents, List.map_cons, List.map_append, depth, ihb (next + 1) (place + 1),
      ihr (next + 1 + body.size) (place + body.width + 2)]
    refine (Pairing.greatestNesting_cons_append (fun q hq => ?_) fun q hq => ?_).symm
    · obtain ⟨e, he, rfl⟩ := List.mem_map.1 hq
      have := extent_range he
      simp only [Extent.bounds]
      omega
    · obtain ⟨e, he, rfl⟩ := List.mem_map.1 hq
      have := extent_range he
      simp only [Extent.bounds]
      omega

end Sequence

end PathTemplate
