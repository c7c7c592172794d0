/-
# PathTemplate.Proofs.Emission — writing a pattern from front to back.

The pattern of a template can be written in one walk of its outline, without going back to what is written. The walk
remembers the sequences that are open, the innermost first, and in each the child that comes next; a group is closed
when its sequence has no child left. Each turn of the walk depends on the outline only through numbers, so that it
ends at all, and that it closes each group where it should, is a fact about outlines.

It ends, because a sequence is written and closed in as many turns as it has segments and groups. What it writes is the
pattern of the template, which is computed from the tree; and that is the rendering of the outline, or the first type
that is not known.
-/
import PathTemplate.Proofs.Joining
import PathTemplate.Proofs.Numbering
import PathTemplate.Proofs.Occurrence

namespace PathTemplate

/-! ## The walk -/

/-- The state of the walk: the numbers of the nodes whose children are being written, the innermost first, each with
the index of its next child; and what is written. -/
structure Emission where
  stack : List (Nat × Nat)
  written : Pattern

namespace Emission

/-- Nothing is written, and the root is open. -/
def start : Emission := ⟨[(0, 0)], .empty⟩

/-- Write a pattern behind what is written. -/
def write (e : Emission) (p : Pattern) : Emission := { e with written := e.written ++ p }

/-- Open the node with the number. -/
def push (e : Emission) (n : Nat) : Emission := { e with stack := (n, 0) :: e.stack }

/-- What is done at a node: all of it is written, except that an optional segment is opened. -/
def enter (compiler : Compiler) (n : Nat) (kind : NodeKind) (e : Emission) : Except Error Emission :=
  match kind with
  | .root => .ok e
  | .literal t => .ok (e.write (.ofText (Pattern.escape t)))
  | .parameter token => (compiler.parameterPattern? token).map e.write
  | .optional => .ok ((e.write (.ofText "(?:".toList)).push n)

/-- What is done when all children of the node with the number are written. Only the root is not in a group. -/
def close (n : Nat) (e : Emission) : Emission := if n = 0 then e else e.write (.ofText ")?".toList)

/-- One turn, on the innermost open node. -/
def turn (compiler : Compiler) (nodes : List Node) (n next : Nat) (e : Emission) : Except Error Emission :=
  match (nodes[n]?).bind (·.children[next]?) with
  | none => .ok (e.close n)
  | some child =>
    let e := { e with stack := (n, next + 1) :: e.stack }
    match nodes[child]? with
    | none => .ok e
    | some node => enter compiler child node.kind e

/-- Turns until no node is open or a type is not known, unless the turns are used up before. -/
def run (compiler : Compiler) (nodes : List Node) : Nat → Emission → Option (Except Error Pattern)
  | _, ⟨[], written⟩ => some (.ok written)
  | 0, ⟨_ :: _, _⟩ => none
  | turns + 1, ⟨(n, next) :: stack, written⟩ =>
    match turn compiler nodes n next ⟨stack, written⟩ with
    | .error fault => some (.error fault)
    | .ok e => run compiler nodes turns e

variable {compiler : Compiler} {nodes : List Node} {n next turns : Nat} {stack : List (Nat × Nat)} {written : Pattern}

theorem run_of_enter_error {child : Nat} {inner : Node} {fault : Error}
    (hchild : (nodes[n]?).bind (·.children[next]?) = some child) (hinner : nodes[child]? = some inner)
    (henter : enter compiler child inner.kind ⟨(n, next + 1) :: stack, written⟩ = .error fault) :
    run compiler nodes (turns + 1) ⟨(n, next) :: stack, written⟩ = some (.error fault) := by
  simp [run, turn, hchild, hinner, henter]

theorem run_of_enter_ok {child : Nat} {inner : Node} {e : Emission}
    (hchild : (nodes[n]?).bind (·.children[next]?) = some child) (hinner : nodes[child]? = some inner)
    (henter : enter compiler child inner.kind ⟨(n, next + 1) :: stack, written⟩ = .ok e) :
    run compiler nodes (turns + 1) ⟨(n, next) :: stack, written⟩ = run compiler nodes turns e := by
  simp [run, turn, hchild, hinner, henter]

theorem run_of_children (hchild : (nodes[n]?).bind (·.children[next]?) = none) :
    run compiler nodes (turns + 1) ⟨(n, next) :: stack, written⟩ =
      run compiler nodes turns (close n ⟨stack, written⟩) := by
  simp [run, turn, hchild]

end Emission

namespace Sequence

/-- The number of turns in which a sequence is written and closed. -/
def turns : Sequence → Nat
  | nil => 1
  | literal _ rest => rest.turns + 1
  | parameter _ rest => rest.turns + 1
  | optional body rest => body.turns + rest.turns + 1

theorem turns_le (s : Sequence) : s.turns ≤ 2 * s.size + 1 := by
  induction s with
  | nil => exact Nat.le_refl _
  | literal _ rest ih | parameter _ rest ih =>
    rw [turns, size]
    omega
  | optional body rest ihBody ihRest =>
    rw [turns, size]
    omega

end Sequence

namespace Emission

variable {compiler : Compiler} {nodes : List Node}

/-- How the walk goes on when the pattern of the children that are left is known: it is written and the node closed, or
the walk has ended with a type that is not known. -/
def finish (compiler : Compiler) (nodes : List Node) (left parent : Nat) (stack : List (Nat × Nat)) (written : Pattern) :
    Except Error Pattern → Option (Except Error Pattern)
  | .error fault => some (.error fault)
  | .ok p => run compiler nodes left (close parent ⟨stack, written ++ p⟩)

/-- What comes first in the pattern may be written already. -/
theorem finish_map (left parent : Nat) (stack : List (Nat × Nat)) (written first : Pattern)
    (result : Except Error Pattern) :
    finish compiler nodes left parent stack written (result.map (first ++ ·)) =
      finish compiler nodes left parent stack (written ++ first) result := by
  cases result with
  | error fault => rfl
  | ok p =>
    show run _ _ _ (close _ ⟨_, written ++ (first ++ p)⟩) = _
    rw [← Pattern.append_assoc]
    rfl

/-- Where a node is open and a sequence is ahead, the walk goes on as if the pattern of the sequence were known, which
takes as many turns as the sequence has. -/
theorem run_sequence {s : Sequence} {parent next index : Nat} (h : Outline.Ahead nodes parent index s next)
    (hnext : 0 < next) (stack : List (Nat × Nat)) (written : Pattern) (left : Nat) :
    run compiler nodes (s.turns + left) ⟨(parent, index) :: stack, written⟩ =
      finish compiler nodes left parent stack written (compiler.pattern? s) := by
  induction s generalizing parent next index stack written left with
  | nil => rw [Sequence.turns, Nat.add_comm, run_of_children h.nil, Compiler.pattern?, finish, Pattern.append_empty]
  | literal t rest ih =>
    obtain ⟨hchild, hinner, hrest⟩ := h.literal
    rw [Sequence.turns, Nat.add_right_comm, run_of_enter_ok hchild hinner rfl, write, ih hrest (Nat.succ_pos _),
      Compiler.pattern?_literal, finish_map]
  | parameter token rest ih =>
    obtain ⟨hchild, hinner, hrest⟩ := h.parameter
    rw [Sequence.turns, Nat.add_right_comm]
    cases hown : compiler.parameterPattern? token with
    | error fault =>
      rw [Compiler.pattern?_parameter_of_error hown]
      exact run_of_enter_error hchild hinner (congrArg (Except.map _) hown)
    | ok own =>
      rw [run_of_enter_ok hchild hinner (congrArg (Except.map _) hown), write, ih hrest (Nat.succ_pos _),
        Compiler.pattern?_parameter_of_ok hown, finish_map]
  | optional body rest ihBody ihRest =>
    obtain ⟨hchild, hinner, hbody, hrest⟩ := h.optional
    have hturns : (body.optional rest).turns + left = body.turns + (rest.turns + left) + 1 := by
      rw [Sequence.turns]
      omega
    -- the segment is pushed, written and closed, and then the walk is back in the sequence, one child further
    rw [hturns, run_of_enter_ok hchild hinner rfl, write, push, ihBody hbody (Nat.succ_pos _)]
    cases hinside : compiler.pattern? body with
    | error fault =>
      rw [Compiler.pattern?_optional_of_error hinside]
      rfl
    | ok inner =>
      rw [finish, close, if_neg (Nat.ne_of_gt hnext), write, ihRest hrest (by omega),
        Compiler.pattern?_optional_of_ok hinside, finish_map, Pattern.optional, Pattern.append_assoc,
        Pattern.append_assoc, Pattern.append_assoc]

end Emission

/-! ## The rendering of an outline -/

namespace Compiler

variable {compiler : Compiler} {token : Token}

/-- The name of the type of a parameter, its own or the default one. -/
def typeName (compiler : Compiler) (token : Token) : Text := token.typeName.getD compiler.defaultType

/-- Is the type of the parameter needed and not known? -/
def lacks (compiler : Compiler) (token : Token) : Bool :=
  token.isIdentifier && !compiler.catalog.contains (compiler.typeName token)

/-- The fragment of the type of a parameter; nothing if the type is not known. -/
def fragmentOf (compiler : Compiler) (token : Token) : Text :=
  (compiler.catalog.table.get? (compiler.typeName token)).getD []

/-- What a node of the kind is rendered as, around what the nodes below it are rendered as. -/
def rendered (compiler : Compiler) (kind : NodeKind) (below : Text) : Text :=
  match kind with
  | .root => below
  | .literal t => Pattern.escape t
  | .parameter token =>
    if token.isIdentifier then "(?P<".toList ++ token.name ++ '>' :: compiler.fragmentOf token ++ [')']
    else Pattern.escape token.raw
  | .optional => "(?:".toList ++ below ++ ")?".toList

/-- What the node with the number is rendered as. -/
def rendering (compiler : Compiler) (nodes : List Node) (n : Nat) : Text :=
  Outline.walk (fun _ kind below => compiler.rendered kind below) nodes n

theorem fragmentOf_of_fragment? {fragment : Text} (h : compiler.fragment? token = .ok fragment) :
    compiler.fragmentOf token = fragment := by
  rw [fragment?, Catalog.fragment?] at h
  rw [fragmentOf, typeName]
  split at h
  · rename_i hget
    rw [hget]
    exact Except.ok.inj h
  · cases h

theorem parameterPattern?_of_lacks (h : compiler.lacks token = true) :
    compiler.parameterPattern? token = .error (.unknownType (compiler.typeName token)) := by
  simp only [lacks, Catalog.contains, TypeTable.contains, Bool.and_eq_true, Bool.not_eq_true',
    Option.isSome_eq_false_iff, Option.isNone_iff_eq_none] at h
  obtain ⟨hidentifier, hnone⟩ := h
  have hfragment : compiler.fragment? token = .error (.unknownType (compiler.typeName token)) := by
    rw [fragment?, Catalog.fragment?, ← typeName, hnone]
  rw [parameterPattern?, if_pos hidentifier, hfragment]
  rfl

theorem exists_parameterPattern?_of_not_lacks (h : compiler.lacks token = false) :
    ∃ own, compiler.parameterPattern? token = .ok own := by
  rw [parameterPattern?]
  split
  · rename_i hidentifier
    rw [lacks, hidentifier, Bool.true_and, Bool.not_eq_false', Catalog.contains, TypeTable.contains] at h
    obtain ⟨fragment, hget⟩ := Option.isSome_iff_exists.1 h
    rw [fragment?, Catalog.fragment?, ← typeName, hget]
    exact ⟨_, rfl⟩
  · exact ⟨_, rfl⟩

theorem text_of_parameterPattern? {own : Pattern} (h : compiler.parameterPattern? token = .ok own) :
    own.text = compiler.rendered (.parameter token) [] := by
  rw [parameterPattern?] at h
  rw [rendered]
  by_cases hidentifier : token.isIdentifier = true
  · rw [if_pos hidentifier] at h ⊢
    obtain ⟨fragment, hfragment, rfl⟩ := map_eq_ok_iff.1 h
    rw [fragmentOf_of_fragment? hfragment]
    rfl
  · rw [if_neg hidentifier] at h ⊢
    obtain rfl := Except.ok.inj h
    rfl

/-- The text of a pattern is what a walk renders. -/
theorem text_of_pattern? {s : Sequence} {p : Pattern} (h : compiler.pattern? s = .ok p) (next : Nat) :
    p.text = s.visited (fun _ kind below => compiler.rendered kind below) next := by
  refine pattern?_induction
    (motive := fun s p => ∀ next, p.text = s.visited (fun _ kind below => compiler.rendered kind below) next)
    ?nil ?literal ?parameter ?optional h next
  case nil => exact fun _ => rfl
  case literal => exact fun t rest q ih next => congrArg (Pattern.escape t ++ ·) (ih (next + 1))
  case parameter =>
    intro token rest own q hown ih next
    exact congrArg₂ (· ++ ·) (text_of_parameterPattern? hown) (ih (next + 1))
  case optional =>
    intro body rest inner q ihBody ihRest next
    rw [Sequence.visited, rendered, ← ihBody (next + 1), ← ihRest (next + 1 + body.size)]
    rfl

/-- Where no type that is needed is unknown, there is a pattern. -/
theorem exists_pattern?_of_find?_lacks {s : Sequence} (h : s.tokens.find? compiler.lacks = none) :
    ∃ p, compiler.pattern? s = .ok p := by
  refine exists_pattern?_of_tokens fun token htoken => exists_parameterPattern?_of_not_lacks ?_
  exact Bool.eq_false_iff.2 (List.find?_eq_none.1 h token htoken)

/-- The first parameter whose type is needed and not known is reported, whatever comes after it. -/
theorem pattern?_of_find?_lacks {s : Sequence} (h : s.tokens.find? compiler.lacks = some token) :
    compiler.pattern? s = .error (.unknownType (compiler.typeName token)) := by
  induction s with
  | nil => cases h
  | literal t rest ih =>
    rw [pattern?_literal, ih h]
    rfl
  | parameter first rest ih =>
    rw [Sequence.tokens] at h
    cases hlacks : compiler.lacks first with
    | true =>
      rw [List.find?_cons_of_pos hlacks] at h
      obtain rfl := Option.some.inj h
      exact pattern?_parameter_of_error (parameterPattern?_of_lacks hlacks)
    | false =>
      rw [List.find?_cons_of_neg (by simp [hlacks])] at h
      obtain ⟨own, hown⟩ := exists_parameterPattern?_of_not_lacks hlacks
      rw [pattern?_parameter_of_ok hown, ih h]
      rfl
  | optional body rest ihBody ihRest =>
    rw [Sequence.tokens, List.find?_append] at h
    cases hbody : body.tokens.find? compiler.lacks with
    | some first =>
      rw [hbody, Option.some_or] at h
      obtain rfl := Option.some.inj h
      exact pattern?_optional_of_error (ihBody hbody)
    | none =>
      rw [hbody, Option.none_or] at h
      obtain ⟨inner, hinner⟩ := exists_pattern?_of_find?_lacks hbody
      rw [pattern?_optional_of_ok hinner, ihRest h]
      rfl

/-- The walk of an outline ends with the pattern of the template. It reports the first parameter, in document order,
whose type is needed and not known; where there is none, the text is the rendering of the outline, and the names are
those of the parameters that are identifiers. -/
theorem run_outline_eq_rendering (compiler : Compiler) (template : Template) :
    (∀ turns, 2 * template.size ≤ turns →
      Emission.run compiler template.outline turns .start = some (compiler.compileTemplate template)) ∧
    compiler.compileTemplate template =
      match template.parameters.find? compiler.lacks with
      | some token => .error (.unknownType (compiler.typeName token))
      | none =>
        .ok ⟨compiler.rendering template.outline 0,
          (template.parameters.filter (·.isIdentifier)).map (·.name)⟩ := by
  constructor
  · intro turns hturns
    have hle := template.segments.turns_le
    rw [Template.size] at hturns
    obtain ⟨left, rfl⟩ := Nat.exists_eq_add_of_le (show template.segments.turns ≤ turns by omega)
    rw [Emission.start, Emission.run_sequence template.ahead_outline Nat.zero_lt_one, compileTemplate]
    cases compiler.pattern? template.segments with
    | error fault => rfl
    | ok p =>
      rw [Emission.finish, Emission.close, if_pos rfl, Emission.run]
      rfl
  · rw [Template.parameters_eq_tokens, compileTemplate]
    cases hfind : template.segments.tokens.find? compiler.lacks with
    | some token => exact pattern?_of_find?_lacks hfind
    | none =>
      obtain ⟨p, hp⟩ := exists_pattern?_of_find?_lacks hfind
      rw [hp, rendering, Template.walk_outline, rendered, ← text_of_pattern? hp, ← parameterNames_of_pattern? hp]

/-- A segment with nothing but an empty one in it, two segments side by side, and a name that is no identifier. -/
example : ((Template.parse? .standard "[[]][/{b}]/{1:x}".toList).toOption.bind fun template =>
    Emission.run standard template.outline (2 * template.size) .start) =
      some (.ok ⟨"(?:(?:)?)?(?:/(?P<b>[^/.]+))?/\\\x7b1:x\\\x7d".toList, ["b".toList]⟩) := by
  decide +kernel

end Compiler

end PathTemplate
