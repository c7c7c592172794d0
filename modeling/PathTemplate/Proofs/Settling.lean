/-
# PathTemplate.Proofs.Settling — settling the optional segments in one walk of the outline.

The segments of a template can be settled in one walk of its outline. The walk has a stack of frames, one for each
sequence that is open, the innermost first. A frame knows which child comes next and what the children before it have
become. When a sequence has no child left, its frame is taken off and, if it is kept, its text goes to the frame below;
the frame of the root is the last one and its text is the result.

A frame holds the text before the next child and the tree gives the text behind it, so what is settled is known in the
middle of a sequence only together with the frame. The walk of a sequence therefore starts from any frame and puts
what the sequence settles to behind what the frame holds. As in the writing of a pattern, a sequence takes as many turns
as it has segments and groups, and so the walk ends.
-/
import PathTemplate.Proofs.Emission
import PathTemplate.Proofs.Rewriting

namespace PathTemplate

/-! ## Settled text behind settled text -/

namespace Settled

/-- One settled text behind another. -/
def append (first second : Settled) : Settled := ⟨first.filled ++ second.filled, first.pruned ++ second.pruned⟩

/-- A text in which there was nothing to settle. -/
def ofText (t : Text) : Settled := ⟨t, t⟩

@[simp] theorem empty_append (s : Settled) : empty.append s = s := rfl

@[simp] theorem append_empty (s : Settled) : s.append empty = s := by simp [append, empty]

theorem append_assoc (first second third : Settled) :
    (first.append second).append third = first.append (second.append third) := by
  simp [append]

end Settled

/-- What a settled segment becomes in the sequence around it: its text with the tokens filled, or nothing. -/
def Grammar.kept (g : Grammar) (values : Supply) (inner : Settled) : Settled :=
  let filled := g.substitute values inner.filled
  if g.isReversed filled then ⟨filled, inner.pruned⟩ else .empty

namespace Sequence

variable {g : Grammar} {values : Supply}

theorem settle_literal_eq_append (t : Text) (rest : Sequence) :
    (literal t rest).settle g values = (Settled.ofText t).append (rest.settle g values) :=
  rfl

theorem settle_parameter_eq_append (token : Token) (rest : Sequence) :
    (parameter token rest).settle g values = (Settled.ofText token.raw).append (rest.settle g values) :=
  rfl

theorem settle_optional_eq_append (body rest : Sequence) :
    (optional body rest).settle g values =
      (g.kept values (body.settle g values)).append (rest.settle g values) := by
  rw [settle, Grammar.kept]
  split <;> rfl

end Sequence

/-! ## The walk -/

/-- A sequence that is open: the number of its node, the index of its next child, and what the children before that one
have become. -/
structure Frame where
  node : Nat
  next : Nat
  settled : Settled

namespace Frame

/-- Nothing of the sequence below the node is settled. -/
def start (n : Nat) : Frame := ⟨n, 0, .empty⟩

/-- Put settled text behind what the frame holds. -/
def add (f : Frame) (s : Settled) : Frame := { f with settled := f.settled.append s }

/-- Go to the next child. -/
def advance (f : Frame) : Frame := { f with next := f.next + 1 }

end Frame

namespace Settling

/-- What is done at a child: its text goes to the frame of the sequence, except that an optional segment gets a frame of
its own. -/
def enter (child : Nat) (kind : NodeKind) (current : Frame) (below : List Frame) : List Frame :=
  match kind with
  | .root => current :: below
  | .literal t => current.add (.ofText t) :: below
  | .parameter token => current.add (.ofText token.raw) :: below
  | .optional => .start child :: current :: below

/-- What is done when a sequence is settled: it is the result, or it is kept or dropped in the sequence around it. -/
def leave (g : Grammar) (values : Supply) (settled : Settled) : List Frame → Settled ⊕ List Frame
  | [] => .inl settled
  | around :: below => .inr (around.add (g.kept values settled) :: below)

/-- One turn, on the innermost open sequence. -/
def turn (g : Grammar) (values : Supply) (nodes : List Node) (current : Frame) (below : List Frame) :
    Settled ⊕ List Frame :=
  match (nodes[current.node]?).bind (·.children[current.next]?) with
  | none => leave g values current.settled below
  | some child =>
    match nodes[child]? with
    | none => .inr (current.advance :: below)
    | some node => .inr (enter child node.kind current.advance below)

/-- Turns until the root is settled, unless the turns are used up before. -/
def run (g : Grammar) (values : Supply) (nodes : List Node) : Nat → List Frame → Option Settled
  | _, [] => some .empty
  | 0, _ :: _ => none
  | turns + 1, current :: below =>
    match turn g values nodes current below with
    | .inl settled => some settled
    | .inr stack => run g values nodes turns stack

variable {g : Grammar} {values : Supply} {nodes : List Node} {current : Frame} {below : List Frame} {turns : Nat}

theorem run_of_child {child : Nat} {inner : Node}
    (hchild : (nodes[current.node]?).bind (·.children[current.next]?) = some child)
    (hinner : nodes[child]? = some inner) :
    run g values nodes (turns + 1) (current :: below) =
      run g values nodes turns (enter child inner.kind current.advance below) := by
  simp [run, turn, hchild, hinner]

/-- How the walk goes on when the innermost open sequence is settled. -/
def finish (g : Grammar) (values : Supply) (nodes : List Node) (left : Nat) (below : List Frame) (settled : Settled) :
    Option Settled :=
  match leave g values settled below with
  | .inl result => some result
  | .inr stack => run g values nodes left stack

theorem run_of_children (hchild : (nodes[current.node]?).bind (·.children[current.next]?) = none) :
    run g values nodes (turns + 1) (current :: below) = finish g values nodes turns below current.settled := by
  simp [run, turn, finish, hchild]

/-- Where a node is open and a sequence is ahead, the walk goes on as if the sequence were settled behind what the frame
holds, which takes as many turns as the sequence has. -/
theorem run_sequence {s : Sequence} {parent next index : Nat} (h : Outline.Ahead nodes parent index s next)
    (held : Settled) (below : List Frame) (left : Nat) :
    run g values nodes (s.turns + left) (⟨parent, index, held⟩ :: below) =
      finish g values nodes left below (held.append (s.settle g values)) := by
  induction s generalizing parent next index held below left with
  | nil => rw [Sequence.turns, Nat.add_comm, run_of_children h.nil, Sequence.settle, Settled.append_empty]
  | literal t rest ih =>
    obtain ⟨hchild, hinner, hrest⟩ := h.literal
    rw [Sequence.turns, Nat.add_right_comm, run_of_child hchild hinner]
    show run _ _ _ _ (⟨parent, index + 1, held.append (.ofText t)⟩ :: below) = _
    rw [ih hrest, Sequence.settle_literal_eq_append, Settled.append_assoc]
  | parameter token rest ih =>
    obtain ⟨hchild, hinner, hrest⟩ := h.parameter
    rw [Sequence.turns, Nat.add_right_comm, run_of_child hchild hinner]
    show run _ _ _ _ (⟨parent, index + 1, held.append (.ofText token.raw)⟩ :: below) = _
    rw [ih hrest, Sequence.settle_parameter_eq_append, Settled.append_assoc]
  | optional body rest ihBody ihRest =>
    obtain ⟨hchild, hinner, hbody, hrest⟩ := h.optional
    have hturns : (body.optional rest).turns + left = body.turns + (rest.turns + left) + 1 := by
      rw [Sequence.turns]
      omega
    rw [hturns, run_of_child hchild hinner, enter, Frame.start, ihBody hbody, Settled.empty_append]
    -- the frame of the segment is off the stack, and the one below it holds what the segment has become
    show run _ _ _ _ (⟨parent, index + 1, held.append (g.kept values (body.settle g values))⟩ :: below) = _
    rw [ihRest hrest, Sequence.settle_optional_eq_append, Settled.append_assoc]

/-- The walk of an outline ends with what the segments of the template settle to. -/
theorem run_outline (g : Grammar) (values : Supply) (template : Template) {turns : Nat}
    (hturns : 2 * template.size ≤ turns) :
    run g values template.outline turns [.start 0] = some (template.segments.settle g values) := by
  have hle := template.segments.turns_le
  rw [Template.size] at hturns
  obtain ⟨left, rfl⟩ := Nat.exists_eq_add_of_le (show template.segments.turns ≤ turns by omega)
  rw [Frame.start, run_sequence template.ahead_outline]
  rfl

/-- A segment that is kept, one in it that is dropped, and one that stands in a token. -/
example : ((Template.parse? .standard "/u[/{a}[/{b}]]/{c[d]}".toList).toOption.bind fun template =>
    run .standard (.ofPairs [("a".toList, ['1'])]) template.outline (2 * template.size) [.start 0]) =
      some ⟨"/u/1/{cd}".toList, "/u/{a}/{cd}".toList⟩ := by
  decide +kernel

/-- Where the source was read with the same grammar, the walk ends with what the rule on text makes of the source. -/
theorem filled_run_outline (values : Supply) {source : Text} {template : Template}
    (h : Template.parse? g source = .ok template) {turns : Nat} (hturns : 2 * template.size ≤ turns) :
    (run g values template.outline turns [.start 0]).map (·.filled) = some (g.rewrite values source) := by
  obtain ⟨s, hs, rfl⟩ := map_eq_ok_iff.1 h
  rw [run_outline g values _ hturns]
  exact congrArg some (Grammar.filled_settle_eq_rewrite hs)

end Settling

end PathTemplate
