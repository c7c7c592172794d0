/-
# PathTemplate.Outline — the numbered nodes of a template.

The outline lists the root and then every segment in document order. The number of a node is its place in the
list, so the root is number 0 and the nodes below an optional segment follow it without a gap. Each node knows
the number of its parent and the numbers of its children; nothing else about the tree is stored.
-/
import PathTemplate.Template

namespace PathTemplate

/-- What a node stands for. -/
inductive NodeKind
  | root
  | literal (text : Text)
  | parameter (token : Token)
  | optional
deriving DecidableEq, Repr

/-- A node of the outline. -/
structure Node where
  kind : NodeKind
  parent : Option Nat
  children : List Nat
deriving DecidableEq, Repr

namespace Sequence

/-- The numbers of the segments that stand in the sequence itself, if its first segment has number `next`. -/
def childNumbers (next : Nat) : Sequence → List Nat
  | nil => []
  | literal _ rest => next :: rest.childNumbers (next + 1)
  | parameter _ rest => next :: rest.childNumbers (next + 1)
  | optional body rest => next :: rest.childNumbers (next + 1 + body.size)

/-- The nodes of a sequence below the node `parent`, if its first segment has number `next`. -/
def nodes (parent next : Nat) : Sequence → List Node
  | nil => []
  | literal t rest => ⟨.literal t, some parent, []⟩ :: rest.nodes parent (next + 1)
  | parameter token rest => ⟨.parameter token, some parent, []⟩ :: rest.nodes parent (next + 1)
  | optional body rest =>
    ⟨.optional, some parent, body.childNumbers (next + 1)⟩ ::
      (body.nodes next (next + 1) ++ rest.nodes parent (next + 1 + body.size))

@[simp] theorem length_nodes (parent next : Nat) (s : Sequence) :
    (s.nodes parent next).length = s.size := by
  induction s generalizing parent next with
  | nil => rfl
  | literal t rest ih => simp [nodes, size, ih]
  | parameter token rest ih => simp [nodes, size, ih]
  | optional body rest ihb ihr => simp [nodes, size, ihb, ihr]

end Sequence

namespace Template

/-- The nodes of the template in order of their numbers. -/
def outline (t : Template) : List Node :=
  ⟨.root, none, t.segments.childNumbers 1⟩ :: t.segments.nodes 0 1

/-- The number of nodes, the root among them. -/
def size (t : Template) : Nat := t.segments.size + 1

/-- Is there nothing below the root? -/
def isEmpty (t : Template) : Bool := t.size ≤ 1

theorem length_outline (t : Template) : t.outline.length = t.size := by
  simp [outline, size]

/-- The numbers of the children of a node, in document order; none for a number of no node. -/
def children (t : Template) (id : Nat) : List Nat :=
  match t.outline[id]? with
  | some node => node.children
  | none => []

end Template

end PathTemplate
