/-
# PathTemplate.Proofs.Numbering — the numbers of the nodes are their places in preorder.

The outline is one list. The tree is in it only through numbers: each node names its parent and lists its children.
Such a list is a tree only if the two agree and no way from parent to child leads back, and whoever goes through the
list from front to back relies on more, namely that a node comes before all that is below it, and that what is below
it comes before anything else. `WellNumbered` is all of that, and every outline has it.

A walk of the outline follows the lists of children. On a sequence it is a recursion over the tree, so what a walk
collects is computed from the segments alone. The numbers of the nodes are collected first: they come in ascending
order without a gap. A walk with a stack stops halfway through the children of a node, and what it then has `Ahead` of it
is a sequence again.
-/
import Mathlib.Data.List.Nodup
import PathTemplate.Proofs.Layout

namespace PathTemplate

/-! ## Walks -/

namespace Outline

/-- Walk the nodes from the one with the number: `visit` is told its number, its kind and what the walks from its
children have collected, in order. Children come after their parent, and the walk leaves out any that does not. -/
def walk {α : Type} (visit : Nat → NodeKind → List α → List α) (nodes : List Node) (n : Nat) : List α :=
  match _h : nodes[n]? with
  | none => []
  | some node =>
    visit n node.kind (node.children.flatMap fun m => if _hm : n < m then walk visit nodes m else [])
termination_by nodes.length - n
decreasing_by
  have := (List.getElem?_eq_some_iff.1 _h).1
  omega

/-- The number of the node and those of all nodes below it, each node before what is below it. -/
def preorder (nodes : List Node) (n : Nat) : List Nat := walk (fun k _ below => k :: below) nodes n

theorem walk_of_getElem? {α : Type} {visit : Nat → NodeKind → List α → List α} {nodes : List Node} {n : Nat}
    {node : Node} (hnode : nodes[n]? = some node) (hafter : ∀ m ∈ node.children, n < m) :
    walk visit nodes n = visit n node.kind (node.children.flatMap (walk visit nodes)) := by
  rw [walk]
  split
  · rename_i hnone
    rw [hnode] at hnone
    simp at hnone
  · rename_i hsome
    rw [hnode] at hsome
    obtain rfl := Option.some.inj hsome
    congr 1
    apply List.flatMap_congr
    intro m hm
    exact dif_pos (hafter m hm)

/-- The nodes of the second list stand in the first one, from the number on. -/
def HoldsFrom (nodes : List Node) (n : Nat) (part : List Node) : Prop := part <+: nodes.drop n

theorem HoldsFrom.of_cons {nodes part : List Node} {n : Nat} {node : Node} (h : HoldsFrom nodes n (node :: part)) :
    nodes[n]? = some node ∧ HoldsFrom nodes (n + 1) part := by
  obtain ⟨later, hlater⟩ := h
  constructor
  · rw [← List.head?_drop, ← hlater]
    rfl
  · refine ⟨later, ?_⟩
    rw [← List.tail_drop, ← hlater]
    rfl

theorem HoldsFrom.of_append {nodes first second : List Node} {n : Nat} (h : HoldsFrom nodes n (first ++ second)) :
    HoldsFrom nodes n first ∧ HoldsFrom nodes (n + first.length) second := by
  refine ⟨(List.prefix_append _ _).trans h, ?_⟩
  obtain ⟨later, hlater⟩ := h
  refine ⟨later, ?_⟩
  rw [← List.drop_drop, ← hlater, List.append_assoc, List.drop_left]

end Outline

namespace Sequence

/-- What a walk collects from a sequence whose first segment has number `next`. -/
def visited {α : Type} (visit : Nat → NodeKind → List α → List α) (next : Nat) : Sequence → List α
  | nil => []
  | literal t rest => visit next (.literal t) [] ++ rest.visited visit (next + 1)
  | parameter token rest => visit next (.parameter token) [] ++ rest.visited visit (next + 1)
  | optional body rest =>
    visit next .optional (body.visited visit (next + 1)) ++ rest.visited visit (next + 1 + body.size)

theorem le_of_mem_childNumbers {next m : Nat} {s : Sequence} (hm : m ∈ s.childNumbers next) : next ≤ m := by
  induction s generalizing next with
  | nil => simp [childNumbers] at hm
  | literal _ rest ih | parameter _ rest ih =>
    rcases List.mem_cons.1 hm with rfl | hm
    · exact Nat.le_refl _
    · exact Nat.le_of_succ_le (ih hm)
  | optional body rest _ ih =>
    rcases List.mem_cons.1 hm with rfl | hm
    · exact Nat.le_refl _
    · have := ih hm
      omega

/-- Where a list holds the nodes of a sequence, walks collect from them what the sequence says. -/
theorem flatMap_walk {α : Type} (visit : Nat → NodeKind → List α → List α) {nodes : List Node} {parent next : Nat}
    {s : Sequence} (hnodes : Outline.HoldsFrom nodes next (s.nodes parent next)) :
    (s.childNumbers next).flatMap (Outline.walk visit nodes) = s.visited visit next := by
  induction s generalizing parent next with
  | nil => rfl
  | literal _ rest ih | parameter _ rest ih =>
    obtain ⟨hnode, hrest⟩ := hnodes.of_cons
    rw [childNumbers, List.flatMap_cons, ih hrest, Outline.walk_of_getElem? hnode (by simp)]
    rfl
  | optional body rest ihb ihr =>
    obtain ⟨hnode, hlater⟩ := hnodes.of_cons
    obtain ⟨hbody, hrest⟩ := hlater.of_append
    rw [length_nodes] at hrest
    have hafter : ∀ m ∈ body.childNumbers (next + 1), next < m := fun m hm => le_of_mem_childNumbers hm
    rw [childNumbers, List.flatMap_cons, ihr hrest, Outline.walk_of_getElem? hnode hafter, ihb hbody]
    rfl

/-- The numbers of the nodes of a sequence are collected in ascending order. -/
theorem visited_preorder (next : Nat) (s : Sequence) :
    s.visited (fun k _ below => k :: below) next = List.range' next s.size := by
  induction s generalizing next with
  | nil => rfl
  | literal _ rest ih | parameter _ rest ih =>
    rw [visited, ih, size, List.range'_succ]
    rfl
  | optional body rest ihb ihr =>
    rw [visited, ihb, ihr, size, List.range'_succ, List.cons_append, List.range'_append_1]

/-- From every node of a sequence, the numbers are collected without a gap. -/
theorem exists_preorder_eq_range' {nodes : List Node} {parent next : Nat} {s : Sequence}
    (hnodes : Outline.HoldsFrom nodes next (s.nodes parent next)) {n : Nat} (hle : next ≤ n)
    (hlt : n < next + s.size) : ∃ count, Outline.preorder nodes n = List.range' n (count + 1) := by
  induction s generalizing parent next with
  | nil => exact absurd hlt (Nat.not_lt.2 hle)
  | literal _ rest ih | parameter _ rest ih =>
    obtain ⟨hnode, hrest⟩ := hnodes.of_cons
    rcases Nat.eq_or_lt_of_le hle with rfl | hle
    · exact ⟨0, Outline.walk_of_getElem? hnode (by simp)⟩
    · exact ih hrest hle (by rw [size] at hlt; omega)
  | optional body rest ihb ihr =>
    obtain ⟨hnode, hlater⟩ := hnodes.of_cons
    obtain ⟨hbody, hrest⟩ := hlater.of_append
    rw [length_nodes] at hrest
    rw [size] at hlt
    rcases Nat.eq_or_lt_of_le hle with rfl | hle
    · refine ⟨body.size, ?_⟩
      unfold Outline.preorder
      rw [Outline.walk_of_getElem? hnode fun m hm => le_of_mem_childNumbers hm, flatMap_walk _ hbody,
        visited_preorder, List.range'_succ]
    · rcases Nat.lt_or_ge n (next + 1 + body.size) with hinside | hbehind
      · exact ihb hbody hle hinside
      · exact ihr hrest hbehind (by omega)

end Sequence

namespace Template

variable {t : Template}

theorem holdsFrom_outline (t : Template) : Outline.HoldsFrom t.outline 1 (t.segments.nodes 0 1) :=
  List.prefix_rfl

/-- A walk of an outline collects what the segments say. -/
theorem walk_outline {α : Type} (visit : Nat → NodeKind → List α → List α) (t : Template) :
    Outline.walk visit t.outline 0 = visit 0 .root (t.segments.visited visit 1) := by
  have hroot : t.outline[0]? = some ⟨.root, none, t.segments.childNumbers 1⟩ := rfl
  rw [Outline.walk_of_getElem? hroot fun m hm => Sequence.le_of_mem_childNumbers hm,
    Sequence.flatMap_walk visit t.holdsFrom_outline]

/-- The preorder of the whole outline is the order of its numbers. -/
theorem preorder_outline (t : Template) : Outline.preorder t.outline 0 = List.range t.outline.length := by
  unfold Outline.preorder
  rw [walk_outline, Sequence.visited_preorder, length_outline, List.range_eq_range', size, List.range'_succ]

end Template

/-! ## Halfway through the children -/

namespace Outline

/-- A walk has come to a child: the children of the node `parent`, from the one with the index on, are the segments of
the sequence, whose first one has the number `next`. -/
structure Ahead (nodes : List Node) (parent index : Nat) (s : Sequence) (next : Nat) : Prop where
  children : ∃ node, nodes[parent]? = some node ∧ node.children.drop index = s.childNumbers next
  holds : HoldsFrom nodes next (s.nodes parent next)

variable {nodes : List Node} {parent index next : Nat}

theorem getElem?_of_drop_eq_cons {α : Type} {xs ys : List α} {x : α} {k : Nat} (h : xs.drop k = x :: ys) :
    xs[k]? = some x ∧ xs.drop (k + 1) = ys := by
  rw [← List.head?_drop, ← List.tail_drop, h]
  exact ⟨rfl, rfl⟩

theorem Ahead.nil (h : Ahead nodes parent index .nil next) :
    (nodes[parent]?).bind (·.children[index]?) = none := by
  obtain ⟨⟨node, hnode, hchildren⟩, -⟩ := h
  rw [hnode]
  exact List.getElem?_eq_none (List.drop_eq_nil_iff.1 hchildren)

theorem Ahead.literal {t : Text} {rest : Sequence} (h : Ahead nodes parent index (.literal t rest) next) :
    (nodes[parent]?).bind (·.children[index]?) = some next ∧ nodes[next]? = some ⟨.literal t, some parent, []⟩ ∧
      Ahead nodes parent (index + 1) rest (next + 1) := by
  obtain ⟨⟨node, hnode, hchildren⟩, hnodes⟩ := h
  obtain ⟨hchild, hleft⟩ := getElem?_of_drop_eq_cons hchildren
  obtain ⟨hinner, hrest⟩ := hnodes.of_cons
  rw [hnode]
  exact ⟨hchild, hinner, ⟨node, hnode, hleft⟩, hrest⟩

theorem Ahead.parameter {token : Token} {rest : Sequence} (h : Ahead nodes parent index (.parameter token rest) next) :
    (nodes[parent]?).bind (·.children[index]?) = some next ∧ nodes[next]? = some ⟨.parameter token, some parent, []⟩ ∧
      Ahead nodes parent (index + 1) rest (next + 1) := by
  obtain ⟨⟨node, hnode, hchildren⟩, hnodes⟩ := h
  obtain ⟨hchild, hleft⟩ := getElem?_of_drop_eq_cons hchildren
  obtain ⟨hinner, hrest⟩ := hnodes.of_cons
  rw [hnode]
  exact ⟨hchild, hinner, ⟨node, hnode, hleft⟩, hrest⟩

/-- Before an optional segment there are two places to go to: its first child, and then the child behind it. -/
theorem Ahead.optional {body rest : Sequence} (h : Ahead nodes parent index (.optional body rest) next) :
    (nodes[parent]?).bind (·.children[index]?) = some next ∧
      nodes[next]? = some ⟨.optional, some parent, body.childNumbers (next + 1)⟩ ∧
      Ahead nodes next 0 body (next + 1) ∧ Ahead nodes parent (index + 1) rest (next + 1 + body.size) := by
  obtain ⟨⟨node, hnode, hchildren⟩, hnodes⟩ := h
  obtain ⟨hchild, hleft⟩ := getElem?_of_drop_eq_cons hchildren
  obtain ⟨hinner, hlater⟩ := hnodes.of_cons
  obtain ⟨hbody, hrest⟩ := hlater.of_append
  rw [Sequence.length_nodes] at hrest
  rw [hnode]
  exact ⟨hchild, hinner, ⟨⟨_, hinner, rfl⟩, hbody⟩, ⟨node, hnode, hleft⟩, hrest⟩

end Outline

theorem Template.ahead_outline (t : Template) : Outline.Ahead t.outline 0 0 t.segments 1 :=
  ⟨⟨_, rfl, rfl⟩, t.holdsFrom_outline⟩

/-! ## Children -/

/-- The numbers of the nodes that have the parent, if the first one has number `next`. -/
def Outline.childrenOf (parent next : Nat) (nodes : List Node) : List Nat :=
  ((nodes.zipIdx next).filter fun entry => entry.1.parent = some parent).map (·.2)

namespace Outline

theorem childrenOf_cons_of_eq {m next : Nat} {node : Node} (h : node.parent = some m) (nodes : List Node) :
    childrenOf m next (node :: nodes) = next :: childrenOf m (next + 1) nodes := by
  unfold childrenOf
  rw [List.zipIdx_cons, List.filter_cons_of_pos (by simpa using h), List.map_cons]

theorem childrenOf_cons_of_ne {m next : Nat} {node : Node} (h : node.parent ≠ some m) (nodes : List Node) :
    childrenOf m next (node :: nodes) = childrenOf m (next + 1) nodes := by
  unfold childrenOf
  rw [List.zipIdx_cons, List.filter_cons_of_neg (by simpa using h)]

theorem childrenOf_append (m next : Nat) (ns ms : List Node) :
    childrenOf m next (ns ++ ms) = childrenOf m next ns ++ childrenOf m (next + ns.length) ms := by
  unfold childrenOf
  rw [List.zipIdx_append, List.filter_append, List.map_append]

theorem mem_childrenOf {m k : Nat} {nodes : List Node} :
    k ∈ childrenOf m 0 nodes ↔ (nodes[k]?).bind (·.parent) = some m := by
  simp only [childrenOf, List.mem_map, List.mem_filter, decide_eq_true_eq, Option.bind_eq_some_iff]
  constructor
  · rintro ⟨⟨node, k⟩, ⟨hentry, hparent⟩, rfl⟩
    exact ⟨node, List.mem_zipIdx_iff_getElem?.1 hentry, hparent⟩
  · rintro ⟨node, hnode, hparent⟩
    exact ⟨(node, k), ⟨List.mem_zipIdx_iff_getElem?.2 hnode, hparent⟩, rfl⟩

theorem pairwise_childrenOf (m next : Nat) (nodes : List Node) : (childrenOf m next nodes).Pairwise (· < ·) := by
  have hsublist : (childrenOf m next nodes).Sublist ((nodes.zipIdx next).map (·.2)) :=
    List.filter_sublist.map _
  rw [List.zipIdx_map_snd] at hsublist
  exact List.Pairwise.sublist hsublist List.pairwise_lt_range'

end Outline

namespace Sequence

/-- The nodes of a sequence have their parent among them, or it is the one of the whole sequence. -/
theorem parent_range {parent next : Nat} {s : Sequence} (hparent : parent < next) {node : Node}
    (hnode : node ∈ s.nodes parent next) :
    ∃ m, node.parent = some m ∧ (m = parent ∨ next ≤ m ∧ m < next + s.size) := by
  obtain ⟨i, hi⟩ := List.mem_iff_getElem?.1 hnode
  have hentry : (node, next + i) ∈ (s.nodes parent next).zipIdx next :=
    List.mk_add_mem_zipIdx_iff_getElem?.2 hi
  obtain ⟨-, hlt, m, hm, hmle, hmlt, -⟩ := covers_parent hparent hentry
  exact ⟨m, hm, hmle.imp_right fun hle => ⟨hle, by omega⟩⟩

theorem childrenOf_eq_nil {parent next m : Nat} {s : Sequence} (hparent : parent < next) (hne : m ≠ parent)
    (hout : m < next ∨ next + s.size ≤ m) (k : Nat) : Outline.childrenOf m k (s.nodes parent next) = [] := by
  rw [Outline.childrenOf, List.map_eq_nil_iff, List.filter_eq_nil_iff]
  rintro ⟨node, i⟩ hentry hm
  obtain ⟨m', hm', hrange⟩ := parent_range hparent (List.fst_mem_of_mem_zipIdx hentry)
  have heq : some m' = some m := hm'.symm.trans (of_decide_eq_true hm)
  obtain rfl := Option.some.inj heq
  omega

/-- The segments that stand in a sequence itself have its parent, and no others have. -/
theorem childNumbers_eq {parent next : Nat} (hparent : parent < next) (s : Sequence) :
    s.childNumbers next = Outline.childrenOf parent next (s.nodes parent next) := by
  induction s generalizing next with
  | nil => rfl
  | literal _ rest ih | parameter _ rest ih =>
    rw [nodes, Outline.childrenOf_cons_of_eq rfl, childNumbers, ih (Nat.lt_succ_of_lt hparent)]
  | optional body rest _ ih =>
    have hbody := childrenOf_eq_nil (Nat.lt_succ_self next) (Nat.ne_of_lt hparent)
      (Or.inl (Nat.lt_succ_of_lt hparent)) (s := body) (next + 1)
    rw [nodes, Outline.childrenOf_cons_of_eq rfl, Outline.childrenOf_append, hbody, length_nodes, childNumbers,
      ih (by omega)]
    rfl

/-- The parent of a whole sequence is not in it. -/
theorem parent_ne_of_mem_zipIdx {parent next : Nat} {s : Sequence} (hparent : parent < next) {node : Node} {n : Nat}
    (hnode : (node, n) ∈ (s.nodes parent next).zipIdx next) : some parent ≠ some n := by
  have := (covers_parent hparent hnode).1
  rintro ⟨⟩
  omega

/-- Each node of a sequence lists the nodes whose parent it is. -/
theorem children_eq {parent next : Nat} {s : Sequence} (hparent : parent < next) {node : Node} {n : Nat}
    (hnode : (node, n) ∈ (s.nodes parent next).zipIdx next) :
    node.children = Outline.childrenOf n next (s.nodes parent next) := by
  induction s generalizing parent next with
  | nil => simp [nodes] at hnode
  | literal _ rest ih | parameter _ rest ih =>
    rw [nodes, Outline.childrenOf_cons_of_ne (parent_ne_of_mem_zipIdx hparent hnode)]
    rw [nodes, List.zipIdx_cons, List.mem_cons] at hnode
    rcases hnode with heq | hnode
    · obtain ⟨rfl, rfl⟩ := Prod.mk.inj heq
      exact (childrenOf_eq_nil (by omega) (by omega) (by omega) _).symm
    · exact ih (by omega) hnode
  | optional body rest ihb ihr =>
    rw [nodes, Outline.childrenOf_cons_of_ne (parent_ne_of_mem_zipIdx hparent hnode), Outline.childrenOf_append,
      length_nodes]
    rw [nodes, List.zipIdx_cons, List.zipIdx_append, List.mem_cons, List.mem_append, length_nodes] at hnode
    rcases hnode with heq | hnode | hnode
    · -- what follows the segment has another parent
      obtain ⟨rfl, rfl⟩ := Prod.mk.inj heq
      rw [← childNumbers_eq (Nat.lt_succ_self _), childrenOf_eq_nil (by omega) (by omega) (by omega),
        List.append_nil]
    · have := covers_parent (Nat.lt_succ_self next) hnode
      rw [← ihb (Nat.lt_succ_self next) hnode, childrenOf_eq_nil (by omega) (by omega) (by omega),
        List.append_nil]
    · have := covers_parent (by omega) hnode
      rw [← ihr (by omega) hnode, childrenOf_eq_nil (Nat.lt_succ_self next) (by omega) (by omega),
        List.nil_append]

/-- No node of a sequence is a root, and only optional segments have children. -/
theorem kind_of_mem_nodes {parent next : Nat} {s : Sequence} {node : Node} (hnode : node ∈ s.nodes parent next) :
    node.kind ≠ .root ∧ (node.kind ≠ .optional → node.children = []) := by
  induction s generalizing parent next with
  | nil => simp [nodes] at hnode
  | literal _ rest ih | parameter _ rest ih =>
    rcases List.mem_cons.1 hnode with rfl | hnode
    · simp
    · exact ih hnode
  | optional body rest ihb ihr =>
    rw [nodes, List.mem_cons, List.mem_append] at hnode
    rcases hnode with rfl | hnode | hnode
    · simp
    · exact ihb hnode
    · exact ihr hnode

end Sequence

namespace Template

variable {t : Template} {n m : Nat} {node : Node}

/-- Every node of an outline lists the nodes whose parent it is. -/
theorem children_eq_childrenOf (hnode : t.outline[n]? = some node) :
    node.children = Outline.childrenOf n 0 t.outline := by
  unfold outline at hnode ⊢
  rw [Outline.childrenOf_cons_of_ne (by simp)]
  cases n with
  | zero =>
    obtain rfl := Option.some.inj hnode
    exact Sequence.childNumbers_eq Nat.zero_lt_one t.segments
  | succ n =>
    have hentry : (node, 1 + n) ∈ (t.segments.nodes 0 1).zipIdx 1 := List.mk_add_mem_zipIdx_iff_getElem?.2 hnode
    rw [Nat.add_comm]
    exact Sequence.children_eq Nat.zero_lt_one hentry

theorem mem_children_iff (hnode : t.outline[n]? = some node) : m ∈ node.children ↔ t.IsChild m n := by
  rw [children_eq_childrenOf hnode]
  exact Outline.mem_childrenOf

theorem pairwise_children (hnode : t.outline[n]? = some node) : node.children.Pairwise (· < ·) := by
  rw [children_eq_childrenOf hnode]
  exact Outline.pairwise_childrenOf n 0 t.outline

/-- A node that is no optional segment has nothing below it, the root apart. -/
theorem children_eq_nil (hnode : node ∈ t.outline) (hroot : node.kind ≠ .root) (hoptional : node.kind ≠ .optional) :
    node.children = [] := by
  rcases List.mem_cons.1 hnode with rfl | hnode
  · exact absurd rfl hroot
  · exact (Sequence.kind_of_mem_nodes hnode).2 hoptional

/-- What is below a node comes after it. -/
theorem IsBelow.lt (h : t.IsBelow m n) : n < m := by
  induction h with
  | single h => exact h.covers_iff.1
  | tail _ h ih => exact Nat.lt_trans h.covers_iff.1 ih

/-- The preorder of a node holds the node itself and what is below it. -/
theorem mem_preorder_iff (hn : n < t.outline.length) :
    m ∈ Outline.preorder t.outline n ↔ m = n ∨ t.IsBelow m n := by
  -- children have greater numbers than their parent, so the induction goes down from the greatest number
  induction hk : t.outline.length - n using Nat.strongRecOn generalizing n with
  | ind k ih =>
    subst hk
    have hnode : t.outline[n]? = some t.outline[n] := List.getElem?_eq_getElem hn
    have hchild {c : Nat} (hc : t.IsChild c n) : n < c ∧ c < t.outline.length :=
      ⟨hc.covers_iff.1, hc.lt_length⟩
    have hwalk : Outline.preorder t.outline n =
        n :: t.outline[n].children.flatMap (Outline.preorder t.outline) :=
      Outline.walk_of_getElem? hnode fun c hc => (hchild ((mem_children_iff hnode).1 hc)).1
    rw [hwalk, List.mem_cons, List.mem_flatMap]
    apply or_congr_right
    constructor
    · rintro ⟨c, hc, hm⟩
      have hc := (mem_children_iff hnode).1 hc
      obtain ⟨hlt, hlength⟩ := hchild hc
      rcases (ih _ (by omega) hlength rfl).1 hm with rfl | hm
      · exact Relation.TransGen.single hc
      · exact Relation.TransGen.tail hm hc
    · intro hm
      obtain ⟨c, hmc, hc⟩ := Relation.TransGen.tail'_iff.1 hm
      obtain ⟨hlt, hlength⟩ := hchild hc
      refine ⟨c, (mem_children_iff hnode).2 hc, (ih _ (by omega) hlength rfl).2 ?_⟩
      exact (Relation.reflTransGen_iff_eq_or_transGen.1 hmc).imp_left Eq.symm

/-- The preorder of a node has no gap. -/
theorem exists_preorder_eq_range' (hn : n < t.outline.length) :
    ∃ count, Outline.preorder t.outline n = List.range' n (count + 1) := by
  rcases Nat.eq_zero_or_pos n with rfl | hpos
  · refine ⟨t.segments.size, ?_⟩
    rw [preorder_outline, length_outline, List.range_eq_range']
    rfl
  · rw [length_outline, size] at hn
    exact Sequence.exists_preorder_eq_range' t.holdsFrom_outline hpos (by omega)

/-- No node but the first is a root. -/
theorem kind_ne_root (hpos : 0 < n) (hnode : t.outline[n]? = some node) : node.kind ≠ .root := by
  have hmem : node ∈ t.outline.tail := by
    apply List.mem_of_getElem?
    rw [List.getElem?_tail]
    exact (congrArg (t.outline[·]?) (Nat.sub_add_cancel hpos)).trans hnode
  exact (Sequence.kind_of_mem_nodes hmem).1

/-- Only roots and optional segments have children. -/
theorem IsChild.kind_parent (h : t.IsChild n m) (hnode : t.outline[m]? = some node) :
    node.kind = .root ∨ node.kind = .optional := by
  by_contra hkind
  rw [not_or] at hkind
  have hlisted := (mem_children_iff hnode).2 h
  rw [children_eq_nil (List.mem_of_getElem? hnode) hkind.1 hkind.2] at hlisted
  exact List.not_mem_nil hlisted

/-- A node stands once in the list of its parent, and in no other list. -/
theorem IsChild.count_children (h : t.IsChild n m) {k : Nat} (hnode : t.outline[k]? = some node) :
    node.children.count n = if k = m then 1 else 0 := by
  have hmem := mem_children_iff (m := n) hnode
  split
  · rename_i heq
    subst heq
    exact List.count_eq_one_of_mem (pairwise_children hnode).nodup (hmem.2 h)
  · rename_i hne
    apply List.count_eq_zero.2
    intro hn
    have heq : some k = some m := (hmem.1 hn).symm.trans h
    exact hne (Option.some.inj heq)

/-! ## The whole outline -/

/-- The numbers of the outline make a tree, and number it in preorder. -/
structure WellNumbered (t : Template) : Prop where
  /-- Number 0 is a root without a parent. -/
  root : ∃ children, t.outline[0]? = some ⟨.root, none, children⟩
  /-- No other node is a root, and every other node has a parent before it that may have children. -/
  parent : ∀ n node, 0 < n → t.outline[n]? = some node → node.kind ≠ .root ∧
    ∃ m above, node.parent = some m ∧ m < n ∧ t.outline[m]? = some above ∧
      (above.kind = .root ∨ above.kind = .optional)
  /-- A node stands once in the list of its parent, and in no other. -/
  listed : ∀ n m, t.IsChild n m → ∀ k node, t.outline[k]? = some node →
    node.children.count n = if k = m then 1 else 0
  /-- A list holds children of its node only. -/
  isChild : ∀ k node, t.outline[k]? = some node → ∀ n ∈ node.children, t.IsChild n k
  ascending : ∀ node ∈ t.outline, node.children.Pairwise (· < ·)
  leaf : ∀ node ∈ t.outline, node.kind ≠ .root → node.kind ≠ .optional → node.children = []
  /-- Preorder meets the nodes in the order of their numbers. -/
  preorder : Outline.preorder t.outline 0 = List.range t.outline.length
  /-- What is below a node has the numbers right behind it. -/
  below : ∀ n, n < t.outline.length → ∃ count, Outline.preorder t.outline n = List.range' n (count + 1) ∧
    ∀ m, t.IsBelow m n ↔ n < m ∧ m ≤ n + count

/-- The outline of every template is well numbered. -/
theorem wellNumbered (t : Template) : t.WellNumbered where
  root := ⟨_, rfl⟩
  parent := by
    intro n node hpos hnode
    have hlt : n < t.outline.length := (List.getElem?_eq_some_iff.1 hnode).1
    obtain ⟨m, hchild, hmlt, -⟩ := exists_isChild hpos hlt
    have habove : t.outline[m]? = some t.outline[m] := List.getElem?_eq_getElem (Nat.lt_trans hmlt hlt)
    have hparent : node.parent = some m := by
      unfold IsChild at hchild
      rwa [hnode] at hchild
    exact ⟨kind_ne_root hpos hnode, m, t.outline[m], hparent, hmlt, habove, hchild.kind_parent habove⟩
  listed := fun n m hchild k node hnode => hchild.count_children hnode
  isChild := fun k node hnode n hn => (mem_children_iff hnode).1 hn
  ascending := by
    intro node hmem
    obtain ⟨n, hnode⟩ := List.mem_iff_getElem?.1 hmem
    exact pairwise_children hnode
  leaf := fun node hnode => children_eq_nil hnode
  preorder := t.preorder_outline
  below := by
    intro n hn
    obtain ⟨count, hcount⟩ := exists_preorder_eq_range' hn
    refine ⟨count, hcount, fun m => ?_⟩
    have hmem := mem_preorder_iff (m := m) hn
    rw [hcount, List.mem_range'_1] at hmem
    constructor
    · intro hbelow
      have := hmem.2 (Or.inr hbelow)
      have := hbelow.lt
      omega
    · rintro ⟨hlt, hle⟩
      exact (hmem.1 (by omega)).resolve_left (by omega)

end Template

end PathTemplate
