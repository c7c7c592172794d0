/-
# PathTemplate.Regex.Assembly — regular expressions from lexemes.

The lexemes are taken in one after another. An opened group waits on a stack, with the alternatives and items
it has so far, until its closing bracket turns it into an item of the group around it. A repetition takes the
item before it as its operand. Flags hold from where they are set to the end of the group, whatever
alternative that is in.

A pattern is invalid if a bracket has no partner, a repetition has no operand, two groups have one name, a property
is not in the table, the nesting is too deep, or, without Unicode, a set reaches beyond ASCII. The nesting is
counted as a pattern is written: groups, repetitions, brackets, and chains of two or more items or alternatives
each add a level.
-/
import PathTemplate.Regex.Normal
import PathTemplate.Regex.SetAssembly

namespace PathTemplate.Regex

/-! ## Flags in force -/

/-- The flags that decide what lexemes mean. -/
structure Flags where
  caseless : Bool
  multiLine : Bool
  dotAll : Bool
  swapGreed : Bool
  unicode : Bool
  crlf : Bool
deriving DecidableEq, Repr

namespace Flags

/-- Only Unicode is on. -/
def default : Flags := ⟨false, false, false, false, true, false⟩

/-- The flags after a setting. -/
def set (flags : Flags) (settings : FlagSettings) : Flags where
  caseless := settings.value .caseless flags.caseless
  multiLine := settings.value .multiLine flags.multiLine
  dotAll := settings.value .dotAll flags.dotAll
  swapGreed := settings.value .swapGreed flags.swapGreed
  unicode := settings.value .unicode flags.unicode
  crlf := settings.value .crlf flags.crlf

/-- Those that concern sets. -/
def forSets (flags : Flags) : SetFlags := ⟨flags.caseless, flags.unicode⟩

/-- Any character; without the flag for it, any but the end of a line. -/
def dot (flags : Flags) : CharSet :=
  if flags.dotAll then .all
  else if flags.crlf then (CharSet.unions [.single '\n', .single '\r']).compl
  else (CharSet.single '\n').compl

/-- The start of the text, or of a line. -/
def caret (flags : Flags) : Anchor := if flags.multiLine then .lineStart flags.crlf else .textStart

/-- The end of the text, or of a line. -/
def dollar (flags : Flags) : Anchor := if flags.multiLine then .lineEnd flags.crlf else .textEnd

end Flags

/-! ## Groups that are open -/

/-- An expression with its nesting depth. -/
structure Sized where
  expr : Regex
  depth : Nat

/-- What stands in a group: an expression, or a setting of flags, which takes no text. -/
inductive Item
  | expr (e : Sized)
  | flags

/-- The item as an expression. -/
def Item.sized : Item → Sized
  | expr e => e
  | flags => ⟨.empty, 0⟩

/-- Two or more expressions add a level to the deepest of them; one alone adds none. -/
def chainDepth : List Sized → Nat
  | [] => 0
  | [e] => e.depth
  | es => es.foldl (fun depth e => max depth e.depth) 0 + 1

/-- What a group is for: to hold its expression together, or to keep it under a number or a name. -/
inductive Grouping
  | plain
  | numbered (number : Nat)
  | named (name : Text)

/-- The expression of a group. -/
def Grouping.wrap (body : Regex) : Grouping → Regex
  | plain => body
  | numbered number => .numbered number body
  | named name => .named name body

/-- An open group: what it is for, the flags in force, and its finished alternatives and the items of the one
being read, each the last first. -/
structure Frame where
  grouping : Grouping
  flags : Flags
  branches : List Sized
  items : List Item

namespace Frame

/-- A group in which nothing stands yet. -/
def opened (grouping : Grouping) (flags : Flags) : Frame := ⟨grouping, flags, [], []⟩

/-- One expression more. -/
def add (frame : Frame) (e : Sized) : Frame := { frame with items := .expr e :: frame.items }

/-- The alternative being read. -/
def branch (frame : Frame) : Sized :=
  let es := frame.items.reverse.map Item.sized
  ⟨sequence (es.map (·.expr)), chainDepth es⟩

/-- The end of an alternative. -/
def bar (frame : Frame) : Frame := { frame with branches := frame.branch :: frame.branches, items := [] }

/-- The expression between the brackets. -/
def body (frame : Frame) : Sized :=
  let es := (frame.branch :: frame.branches).reverse
  ⟨choice (es.map (·.expr)), chainDepth es⟩

/-- The group once its closing bracket has come. -/
def close (frame : Frame) : Sized := ⟨frame.grouping.wrap frame.body.expr, frame.body.depth + 1⟩

/-- The last item repeated, if it is an expression. -/
def repeatLast? (frame : Frame) (least : Nat) (most : Option Nat) (greedy : Bool) : Option Frame :=
  match frame.items with
  | .expr e :: items =>
    let greedy := greedy != frame.flags.swapGreed
    some { frame with items := .expr ⟨repetition e.expr least most greedy, e.depth + 1⟩ :: items }
  | _ => none

end Frame

/-- The groups being read, the innermost apart, the number of those that have had a number, and the names of
all groups so far. -/
structure Assembly where
  frame : Frame
  outer : List Frame
  count : Nat
  names : List Text

namespace Assembly

/-- Nothing has been read. -/
def start : Assembly := ⟨.opened .plain .default, [], 0, []⟩

/-- One expression more in the innermost group. -/
def add (a : Assembly) (e : Sized) : Assembly := { a with frame := a.frame.add e }

/-- One set more, if the flags allow it. -/
def addSet? (a : Assembly) (s : SizedSet) : Option Assembly :=
  if a.frame.flags.forSets.allows s.set then some (a.add ⟨ofSet s.set, s.depth⟩) else none

/-- One anchor more. -/
def addAnchor (a : Assembly) (anchor : Anchor) : Assembly := a.add ⟨.anchor anchor, 0⟩

/-- A group opens in the innermost one. -/
def openGroup (a : Assembly) (grouping : Grouping) (flags : Flags) : Assembly :=
  { a with frame := .opened grouping flags, outer := a.frame :: a.outer }

/-- Take in a lexeme. -/
def step? [PropertyTable] (a : Assembly) : Lexeme → Option Assembly
  | .char c => some (a.add ⟨ofSet (a.frame.flags.forSets.close (.single c)), 0⟩)
  | .byte c => a.addSet? ⟨a.frame.flags.forSets.close (.single c), 0⟩
  | .dot => a.addSet? ⟨a.frame.flags.dot, 0⟩
  | .shorthand s negated =>
    a.addSet? ⟨(CharSet.ofShorthand a.frame.flags.unicode s).negateIf negated, 0⟩
  | .property name negated => do a.addSet? ⟨← a.frame.flags.forSets.ofProperty? name negated, 0⟩
  | .bracketed lexemes => do a.addSet? (← SizedSet.ofLexemes? a.frame.flags.forSets lexemes)
  | .caret => some (a.addAnchor a.frame.flags.caret)
  | .dollar => some (a.addAnchor a.frame.flags.dollar)
  | .textStart => some (a.addAnchor .textStart)
  | .textEnd => some (a.addAnchor .textEnd)
  | .wordEdge edge => some (a.addAnchor (.word edge a.frame.flags.unicode))
  | .repetition least most greedy => do
    return { a with frame := ← a.frame.repeatLast? least most greedy }
  | .bar => some { a with frame := a.frame.bar }
  | .groupOpening .plain =>
    some { a.openGroup (.numbered a.count) a.frame.flags with count := a.count + 1 }
  | .groupOpening (.named name) =>
    if name ∈ a.names then none
    else some { a.openGroup (.named name) a.frame.flags with names := name :: a.names }
  | .groupOpening (.scoped settings) => some (a.openGroup .plain (a.frame.flags.set settings))
  | .groupClosing =>
    match a.outer with
    | [] => none
    | frame :: outer => some { a with frame := frame.add a.frame.close, outer := outer }
  | .flags settings =>
    some { a with frame := { a.frame with
      flags := a.frame.flags.set settings, items := .flags :: a.frame.items } }

/-- The deepest nesting that a pattern may have. -/
def depthLimit : Nat := 250

/-- The whole expression, if every group has been closed and the nesting is not too deep. -/
def finish? (a : Assembly) : Option Regex :=
  if a.outer.isEmpty && a.frame.body.depth ≤ depthLimit then some a.frame.body.expr else none

end Assembly

/-- The expression that a pattern denotes, if the pattern is valid. -/
def parse? [PropertyTable] (pattern : Text) : Option Regex := do
  let lexemes ← lexemes? ⟨false, []⟩ pattern
  (← lexemes.foldlM Assembly.step? .start).finish?

/-- Is the text a valid pattern? -/
def isValid [PropertyTable] (pattern : Text) : Bool := (parse? pattern).isSome

end PathTemplate.Regex
