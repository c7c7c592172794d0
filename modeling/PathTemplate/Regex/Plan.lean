/-
# PathTemplate.Regex.Plan — expressions with their choice points.

A plan is an expression made ready for a search. Wherever a match can go on in two ways the plan has a choice
point: between alternatives, before an optional part, and where a loop begins its next turn. The points are
numbered, so that a search can tell where it has been. Counted repetitions are written out, and every copy has
points of its own. Only the turns of a loop share theirs.

A loop whose body may take no text first decides whether there is to be a turn at all, and only after that
turn whether there is to be another. So a turn without text is kept apart from no turn.
-/
import PathTemplate.Regex.Basic

namespace PathTemplate.Regex

/-- An expression with numbered choice points. -/
inductive Plan
  /-- Nothing at all. -/
  | empty
  /-- One character of a set. -/
  | set (s : CharSet)
  /-- A condition on the place. -/
  | anchor (a : Anchor)
  | seq (first second : Plan)
  /-- One of two plans; the first is preferred. -/
  | choice (point : Nat) (first second : Plan)
  /-- A plan any number of times. The choice before each turn is the same point; another turn is preferred
  if greedy. -/
  | loop (point : Nat) (greedy : Bool) (body : Plan)
  /-- A plan whose text is kept under a name. -/
  | named (name : Text) (body : Plan)

namespace Plan

/-- The characters one after another. -/
def chars : Text → Plan
  | [] => empty
  | c :: text => seq (set (.single c)) (chars text)

/-! ## Parts of a repetition

The body of a repetition is given by its width, which is the number of its points, and by its plan from a
given number on. -/

/-- The part or nothing; a greedy choice prefers the part. -/
def optional (point : Nat) (greedy : Bool) (part : Plan) : Plan :=
  if greedy then choice point part empty else choice point empty part

/-- The body `count` times. -/
def times (body : Nat → Plan) (width next : Nat) : Nat → Plan
  | 0 => empty
  | count + 1 => seq (body next) (times body width (next + width) count)

/-- The body up to `count` times. -/
def upTo (body : Nat → Plan) (width next : Nat) (greedy : Bool) : Nat → Plan
  | 0 => empty
  | count + 1 =>
    optional next greedy (seq (body (next + 1)) (upTo body width (next + 1 + width) greedy count))

/-- The body once or more often. -/
def onceOrMore (body : Nat → Plan) (next : Nat) (greedy : Bool) : Plan :=
  let turn := body (next + 1)
  seq turn (loop next greedy turn)

end Plan

/-! ## Taking text -/

/-- Does every match take text? Answers `false` where it is not plain from the form of the expression. -/
def takesText : Regex → Bool
  | empty => false
  | literal text => !text.isEmpty
  | set _ => true
  | anchor _ => false
  | seq first second => first.takesText || second.takesText
  | alt first second => first.takesText && second.takesText
  | repeated body least _ _ => body.takesText && 0 < least
  | numbered _ body => body.takesText
  | named _ body => body.takesText

/-! ## Numbering -/

/-- The number of choice points. -/
def points : Regex → Nat
  | empty => 0
  | literal _ => 0
  | set _ => 0
  | anchor _ => 0
  | seq first second => first.points + second.points
  | alt first second => first.points + second.points + 1
  | repeated body least most _ =>
    let width := body.points
    match least, most with
    | least, some most => least * width + (most - least) * (width + 1)
    | 0, none => if body.takesText then width + 1 else width + 2
    | least + 1, none => (least + 1) * width + 1
  | numbered _ body => body.points
  | named _ body => body.points

/-- The plan of an expression, its points numbered from `next` on. -/
def plan (next : Nat) : Regex → Plan
  | empty => .empty
  | literal text => .chars text
  | set s => .set s
  | anchor a => .anchor a
  | seq first second => .seq (first.plan next) (second.plan (next + first.points))
  | alt first second =>
    .choice next (first.plan (next + 1)) (second.plan (next + 1 + first.points))
  | repeated body least most greedy =>
    let width := body.points
    let turn := fun next => body.plan next
    match least, most with
    | least, some most =>
      .seq (.times turn width next least) (.upTo turn width (next + least * width) greedy (most - least))
    | 0, none =>
      if body.takesText then .loop next greedy (turn (next + 1))
      else .optional next greedy (.onceOrMore turn (next + 1) greedy)
    | least + 1, none =>
      .seq (.times turn width next least) (.onceOrMore turn (next + least * width) greedy)
  | numbered _ body => body.plan next
  | named name body => .named name (body.plan next)

end PathTemplate.Regex
