/-
# PathTemplate.Proofs.Building — the outline built node by node.

A template can be read into its outline without the tree: nodes are appended to one list, each is added to the children
of its parent, and a stack holds the texts that are still to be read, each with the number of the node that it belongs
to. The interior of a span lies on the stack above the text behind the span, so it is finished first. Whether the
numbers that are handed out on the way are those of document order is not to be seen from a single turn.

What a text adds to the nodes is the sequence that it is read as: its segments become the last children of the
parent, and their nodes stand behind all others. One turn does this for the text before a span and opens the optional
segment; a run does it for a whole text. From the root alone, the run of a source ends with the outline.
-/
import PathTemplate.Proofs.Layout
import PathTemplate.Proofs.Reading

namespace PathTemplate

/-! ## Building -/

/-- The state of building: the nodes so far, and the texts that are still to be read, the next first, each with the
number of the node that it belongs to. -/
structure Builder where
  nodes : List Node
  pending : List (Text × Nat)

namespace Builder

/-- There is only the root, and the source is to be read. -/
def start (source : Text) : Builder := ⟨[⟨.root, none, []⟩], [(source, 0)]⟩

/-- Add numbers to the children of a node. -/
def addChildren (numbers : List Nat) (node : Node) : Node := { node with children := node.children ++ numbers }

/-- Append a node, which becomes the last child of its parent. -/
def push (nodes : List Node) (kind : NodeKind) (parent : Nat) : List Node :=
  List.modify (nodes ++ [⟨kind, some parent, []⟩]) parent (addChildren [nodes.length])

/-- Append the pieces of flat text, up to the first token that is not well formed. -/
def pushPieces? (g : Grammar) (parent : Nat) : List Piece → List Node → Except Error (List Node)
  | [], nodes => .ok nodes
  | .text t :: rest, nodes => pushPieces? g parent rest (push nodes (.literal t) parent)
  | .token content :: rest, nodes =>
    match g.token? content with
    | .ok token => pushPieces? g parent rest (push nodes (.parameter token) parent)
    | .error fault => .error (.invalidParameter ((Piece.token content).raw g.parameter) fault)

/-- One turn, on the next text: it is flat, or it has a first span, whose interior is to be read next. -/
def turn (g : Grammar) (text : Text) (parent : Nat) (b : Builder) : Except Error Builder :=
  match g.option.firstSpan? text with
  | none => do return { b with nodes := ← pushPieces? g parent (g.parameter.pieces text) b.nodes }
  | some span => do
    let nodes ← pushPieces? g parent (g.parameter.pieces span.before) b.nodes
    return ⟨push nodes .optional parent, (span.interior, nodes.length) :: (span.after, parent) :: b.pending⟩

/-- Turns until nothing is to be read or a token is faulty, unless the turns are used up before. -/
def run (g : Grammar) : Nat → Builder → Option (Except Error (List Node))
  | _, ⟨nodes, []⟩ => some (.ok nodes)
  | 0, ⟨_, _ :: _⟩ => none
  | turns + 1, ⟨nodes, (text, parent) :: pending⟩ =>
    match turn g text parent ⟨nodes, pending⟩ with
    | .error fault => some (.error fault)
    | .ok b => run g turns b

/-! ## What a sequence adds -/

/-- The nodes with those of a sequence behind them, whose segments are the last children of the parent. -/
def grow (nodes : List Node) (parent : Nat) (s : Sequence) : List Node :=
  nodes.modify parent (addChildren (s.childNumbers nodes.length)) ++ s.nodes parent nodes.length

theorem modify_append_of_lt {α : Type} {xs ys : List α} {n : Nat} (h : n < xs.length) (f : α → α) :
    (xs ++ ys).modify n f = xs.modify n f ++ ys := by
  induction xs generalizing n with
  | nil => cases h
  | cons x xs ih =>
    cases n with
    | zero => rfl
    | succ n => rw [List.cons_append, List.modify_succ_cons, ih (Nat.lt_of_succ_lt_succ h)]; rfl

theorem modify_append_length {α : Type} (xs : List α) (x : α) (f : α → α) :
    (xs ++ [x]).modify xs.length f = xs ++ [f x] := by
  induction xs with
  | nil => rfl
  | cons y xs ih => rw [List.cons_append, List.length_cons, List.modify_succ_cons, ih]; rfl

variable {g : Grammar} {nodes : List Node} {parent : Nat}

theorem modify_addChildren_addChildren (first second : List Nat) :
    (nodes.modify parent (addChildren first)).modify parent (addChildren second) =
      nodes.modify parent (addChildren (first ++ second)) := by
  rw [List.modify_modify_eq]
  congr 1
  funext node
  simp [addChildren]

theorem modify_addChildren_nil : nodes.modify parent (addChildren []) = nodes := by
  have hid : addChildren [] = id := funext fun node => by simp [addChildren]
  rw [hid, List.modify_id]

@[simp] theorem length_grow (s : Sequence) : (grow nodes parent s).length = nodes.length + s.size := by
  simp [grow]

theorem grow_nil : grow nodes parent .nil = nodes := by
  rw [grow, Sequence.childNumbers, modify_addChildren_nil]
  exact List.append_nil _

theorem push_eq (hparent : parent < nodes.length) (kind : NodeKind) :
    push nodes kind parent = nodes.modify parent (addChildren [nodes.length]) ++ [⟨kind, some parent, []⟩] :=
  modify_append_of_lt hparent _

@[simp] theorem length_push (kind : NodeKind) : (push nodes kind parent).length = nodes.length + 1 := by
  simp [push]

theorem lt_length_push {n : Nat} (h : n < nodes.length) {kind : NodeKind} : n < (push nodes kind parent).length := by
  rw [length_push]
  exact Nat.lt_succ_of_lt h

theorem lt_length_grow {n : Nat} (h : n < nodes.length) {s : Sequence} : n < (grow nodes parent s).length := by
  rw [length_grow]
  exact Nat.lt_add_right _ h

/-- A node without children is pushed, and then a sequence is added below the same parent. -/
theorem grow_push (hparent : parent < nodes.length) (kind : NodeKind) (rest : Sequence) :
    grow (push nodes kind parent) parent rest =
      nodes.modify parent (addChildren (nodes.length :: rest.childNumbers (nodes.length + 1))) ++
        ⟨kind, some parent, []⟩ :: rest.nodes parent (nodes.length + 1) := by
  have hparent' : parent < (nodes.modify parent (addChildren [nodes.length])).length := by simpa using hparent
  rw [grow, length_push, push_eq hparent, modify_append_of_lt hparent', modify_addChildren_addChildren,
    List.append_assoc]
  rfl

theorem grow_literal (hparent : parent < nodes.length) (t : Text) (rest : Sequence) :
    grow (push nodes (.literal t) parent) parent rest = grow nodes parent (.literal t rest) :=
  grow_push hparent (.literal t) rest

theorem grow_parameter (hparent : parent < nodes.length) (token : Token) (rest : Sequence) :
    grow (push nodes (.parameter token) parent) parent rest = grow nodes parent (.parameter token rest) :=
  grow_push hparent (.parameter token) rest

/-- An optional segment is pushed, its body is added below it, and then a sequence below its parent. -/
theorem grow_optional (hparent : parent < nodes.length) (body rest : Sequence) :
    grow (grow (push nodes .optional parent) nodes.length body) parent rest =
      grow nodes parent (.optional body rest) := by
  -- the new node is the last one, so its children are added to it and not to one before it
  have hbody : grow (push nodes .optional parent) nodes.length body =
      nodes.modify parent (addChildren [nodes.length]) ++
        ⟨.optional, some parent, body.childNumbers (nodes.length + 1)⟩ ::
          body.nodes nodes.length (nodes.length + 1) := by
    have hlast := modify_append_length (nodes.modify parent (addChildren [nodes.length])) ⟨.optional, some parent, []⟩
      (addChildren (body.childNumbers (nodes.length + 1)))
    rw [List.length_modify] at hlast
    rw [grow, length_push, push_eq hparent, hlast, List.append_assoc]
    rfl
  have hparent' : parent < (nodes.modify parent (addChildren [nodes.length])).length := by simpa using hparent
  have hlength : (grow (push nodes .optional parent) nodes.length body).length = nodes.length + 1 + body.size := by
    rw [length_grow, length_push]
  rw [grow, hlength, hbody, modify_append_of_lt hparent', modify_addChildren_addChildren, List.append_assoc]
  rfl

/-- What is added for two sequences, one behind the other, is added for the first and then for the second. -/
theorem grow_append (hparent : parent < nodes.length) (r s : Sequence) :
    grow (grow nodes parent r) parent s = grow nodes parent (r ++ s) := by
  induction r generalizing nodes with
  | nil => rw [grow_nil, Sequence.nil_append]
  | literal t rest ih =>
    rw [← grow_literal hparent, ih (lt_length_push hparent), grow_literal hparent, Sequence.literal_append]
  | parameter token rest ih =>
    rw [← grow_parameter hparent, ih (lt_length_push hparent), grow_parameter hparent, Sequence.parameter_append]
  | optional body rest _ ih =>
    rw [← grow_optional hparent, ih (lt_length_grow (lt_length_push hparent)), grow_optional hparent,
      Sequence.optional_append]

/-! ## Turns -/

theorem pushPieces?_eq (hparent : parent < nodes.length) (pieces : List Piece) :
    pushPieces? g parent pieces nodes = (g.flatSequence? pieces).map (grow nodes parent) := by
  -- one piece adds one segment; the pieces behind it add to the nodes with its own node among them
  induction pieces generalizing nodes with
  | nil => exact congrArg Except.ok grow_nil.symm
  | cons piece rest ih =>
    cases piece with
    | text t =>
      rw [pushPieces?, Grammar.flatSequence?, ih (lt_length_push hparent)]
      cases g.flatSequence? rest with
      | error fault => rfl
      | ok s => exact congrArg Except.ok (grow_literal hparent t s)
    | token content =>
      rw [pushPieces?, Grammar.flatSequence?]
      cases g.token? content with
      | error fault => rfl
      | ok token =>
        dsimp only
        rw [ih (lt_length_push hparent)]
        cases g.flatSequence? rest with
        | error fault => rfl
        | ok s => exact congrArg Except.ok (grow_parameter hparent token s)

variable {text : Text} {pending : List (Text × Nat)}

/-- Flat text is read in one turn. -/
theorem turn_of_none (hparent : parent < nodes.length) (h : g.option.firstSpan? text = none) :
    turn g text parent ⟨nodes, pending⟩ =
      (g.sequence? text).map fun s => ⟨grow nodes parent s, pending⟩ := by
  simp only [turn, h]
  rw [pushPieces?_eq hparent, Grammar.sequence?_of_none h]
  cases g.flatSequence? (g.parameter.pieces text) <;> rfl

/-- Where a text has a first span, one turn reads what is before it and opens the optional segment. -/
theorem turn_of_some (hparent : parent < nodes.length) {span : Span} (h : g.option.firstSpan? text = some span) :
    turn g text parent ⟨nodes, pending⟩ =
      (g.flatSequence? (g.parameter.pieces span.before)).map fun s =>
        ⟨push (grow nodes parent s) .optional parent,
          (span.interior, nodes.length + s.size) :: (span.after, parent) :: pending⟩ := by
  simp only [turn, h]
  rw [pushPieces?_eq hparent]
  cases g.flatSequence? (g.parameter.pieces span.before) with
  | error fault => rfl
  | ok s => exact congrArg (fun n => Except.ok (Builder.mk _ ((span.interior, n) :: _))) (length_grow s)

/-! ## Runs -/

/-- How building goes on when the sequence of the next text is known: it is added to the nodes, or building has ended
with a faulty token. -/
def proceed (g : Grammar) (left parent : Nat) (nodes : List Node) (pending : List (Text × Nat)) :
    Except Error Sequence → Option (Except Error (List Node))
  | .error fault => some (.error fault)
  | .ok s => run g left ⟨grow nodes parent s, pending⟩

/-- On top of the stack the text is read to its sequence before anything below it is looked at. There are no more
turns than the text has characters, and one. -/
def Reads (g : Grammar) (text : Text) : Prop :=
  ∀ (nodes : List Node) (parent : Nat) (pending : List (Text × Nat)), parent < nodes.length →
    ∃ turns ≤ text.length + 1, ∀ left, run g (turns + left) ⟨nodes, (text, parent) :: pending⟩ =
      proceed g left parent nodes pending (g.sequence? text)

theorem reads_of_none (h : g.option.firstSpan? text = none) : Reads g text := by
  intro nodes parent pending hparent
  refine ⟨1, Nat.le_add_left _ _, fun left => ?_⟩
  rw [Nat.add_comm, run, turn_of_none hparent h]
  cases g.sequence? text <;> rfl

/-- The turn that opens an optional segment. -/
theorem run_of_some (hparent : parent < nodes.length) {span : Span} (h : g.option.firstSpan? text = some span)
    {before : Sequence} (hbefore : g.flatSequence? (g.parameter.pieces span.before) = .ok before) (left : Nat) :
    run g (1 + left) ⟨nodes, (text, parent) :: pending⟩ =
      run g left ⟨push (grow nodes parent before) .optional parent,
        (span.interior, nodes.length + before.size) :: (span.after, parent) :: pending⟩ := by
  rw [Nat.add_comm, run, turn_of_some hparent h, hbefore]
  rfl

/-- Interior and rest of a span are read one after the other. The turn that finds the span takes its two bounds off the
text, so the bound on the turns is kept. -/
theorem reads_of_some {span : Span} (h : g.option.firstSpan? text = some span) (hinterior : Reads g span.interior)
    (hafter : Reads g span.after) : Reads g text := by
  intro nodes parent pending hparent
  have hlength : span.interior.length + span.after.length + 2 ≤ text.length := by
    have happend := congrArg List.length (Brackets.firstSpan?_append h)
    simp [Span.text] at happend
    omega
  rw [Grammar.sequence?_of_some h]
  cases hbefore : g.flatSequence? (g.parameter.pieces span.before) with
  | error fault =>
    refine ⟨1, Nat.le_add_left _ _, fun left => ?_⟩
    rw [Nat.add_comm, run, turn_of_some hparent h, hbefore]
    rfl
  | ok before =>
    have hsize : (grow nodes parent before).length = nodes.length + before.size := length_grow before
    have hgrown : parent < (grow nodes parent before).length := lt_length_grow hparent
    have hopened : nodes.length + before.size < (push (grow nodes parent before) .optional parent).length := by simp
    obtain ⟨first, hfirst, hrunInterior⟩ := hinterior _ _ ((span.after, parent) :: pending) hopened
    cases hbody : g.sequence? span.interior with
    | error fault =>
      refine ⟨1 + first, by omega, fun left => ?_⟩
      rw [Nat.add_assoc, run_of_some hparent h hbefore, hrunInterior, hbody]
      rfl
    | ok body =>
      have hfilled : parent <
          (grow (push (grow nodes parent before) .optional parent) (nodes.length + before.size) body).length :=
        lt_length_grow (lt_length_push hgrown)
      obtain ⟨second, hsecond, hrunAfter⟩ := hafter _ _ pending hfilled
      refine ⟨1 + (first + second), by omega, fun left => ?_⟩
      rw [Nat.add_assoc, Nat.add_assoc, run_of_some hparent h hbefore, hrunInterior, hbody, proceed, hrunAfter]
      cases g.sequence? span.after with
      | error fault => rfl
      | ok after =>
        show run g left ⟨grow _ parent after, pending⟩ =
          run g left ⟨grow nodes parent (before ++ .optional body after), pending⟩
        rw [← hsize, grow_optional hgrown, grow_append hparent]

theorem reads (g : Grammar) (text : Text) : Reads g text := by
  -- interior and rest of a span are shorter texts, not parts of the term, so the induction is on length
  induction hn : text.length using Nat.strongRecOn generalizing text with
  | ind n ih =>
    subst hn
    cases hspan : g.option.firstSpan? text with
    | none => exact reads_of_none hspan
    | some span =>
      obtain ⟨hinterior, hafter⟩ := Brackets.firstSpan?_length hspan
      exact reads_of_some hspan (ih _ hinterior _ rfl) (ih _ hafter _ rfl)

/-- Building ends, and it ends with the outline of the template, or with the fault for which there is no template. -/
theorem run_start (g : Grammar) (source : Text) {turns : Nat} (hturns : source.length + 1 ≤ turns) :
    run g turns (start source) = some ((Template.parse? g source).map (·.outline)) := by
  obtain ⟨needed, hneeded, hrun⟩ := reads g source [⟨.root, none, []⟩] 0 [] Nat.zero_lt_one
  obtain ⟨left, rfl⟩ := Nat.exists_eq_add_of_le (Nat.le_trans hneeded hturns)
  rw [start, hrun left, Template.parse?]
  cases g.sequence? source with
  | error fault => rfl
  | ok s => cases left <;> rfl

/-- A span in a span, text behind both, and a bound that belongs to no span. -/
example : run .standard 9 (start "[a[b]]c[".toList) = some (.ok [
    ⟨.root, none, [1, 5]⟩, ⟨.optional, some 0, [2, 3]⟩, ⟨.literal ['a'], some 1, []⟩, ⟨.optional, some 1, [4]⟩,
    ⟨.literal ['b'], some 3, []⟩, ⟨.literal "c[".toList, some 0, []⟩]) := by
  decide +kernel

end Builder

end PathTemplate
