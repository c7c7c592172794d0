/-
# PathTemplate.Regex.SetAssembly — bracketed sets from their lexemes.

Items side by side form a union. An operator takes everything to its left in the same brackets as one operand
and the items up to the next operator as the other, so operators group to the left. A bracket inside a set is
an item again.

Along with the set its nesting depth is computed: a pair of brackets, an operator, and a union of two or more
items each add a level. If case does not matter, the variants are added to every item at once, before it is negated;
the operations then keep a set that is closed under variants closed.

Without Unicode nothing in a set may reach beyond ASCII, not even if it would not be left in the end.
-/
import PathTemplate.Regex.Lexeme
import PathTemplate.Regex.Property

namespace PathTemplate.Regex

/-- The flags that decide what a set holds. -/
structure SetFlags where
  caseless : Bool
  unicode : Bool
deriving DecidableEq, Repr

/-- The set with the case variants of its members, if case does not matter. -/
def SetFlags.close (flags : SetFlags) (s : CharSet) : CharSet :=
  if !flags.caseless then s
  else if flags.unicode then s.caseless
  else s.asciiCaseless

/-- Without Unicode a set has to stay within ASCII. -/
def SetFlags.allows (flags : SetFlags) (s : CharSet) : Bool := flags.unicode || s.isAscii

/-- The characters with a property, or those without it. Properties are for Unicode only. -/
def SetFlags.ofProperty? [PropertyTable] (flags : SetFlags) (name : Text) (negated : Bool) : Option CharSet := do
  guard flags.unicode
  return (flags.close (← PropertyTable.find? name)).negateIf negated

/-- A set that has been read, with its nesting depth. -/
structure SizedSet where
  set : CharSet
  depth : Nat

/-- The two operands combined. -/
def SizedSet.combine (op : SetOperator) (left right : SizedSet) : SizedSet where
  set := match op with
    | .intersection => left.set.inter right.set
    | .difference => left.set.diff right.set
    | .symmetricDifference => left.set.symmDiff right.set
  depth := max left.depth right.depth + 1

/-- A pair of brackets that is open: whether its set is to be negated, the operand to the left of an operator
that waits for its right one, and the items since then, the last first. -/
structure SetFrame where
  negated : Bool
  pending : Option (SizedSet × SetOperator)
  items : List SizedSet

namespace SetFrame

/-- Brackets in which nothing stands yet. -/
def opened (negated : Bool) (items : List SizedSet) : SetFrame := ⟨negated, none, items⟩

/-- One item more. -/
def add (frame : SetFrame) (item : SizedSet) : SetFrame := { frame with items := item :: frame.items }

/-- The union of the items since the last operator. -/
def union (frame : SetFrame) : SizedSet :=
  match frame.items with
  | [] => ⟨CharSet.empty, 0⟩
  | [item] => item
  | items =>
    ⟨CharSet.unions (items.map (·.set)),
     items.foldl (fun depth item => max item.depth depth) 0 + 1⟩

/-- Everything so far as one operand. -/
def operand (frame : SetFrame) : SizedSet :=
  match frame.pending with
  | none => frame.union
  | some (left, op) => SizedSet.combine op left frame.union

/-- What the brackets hold once they are closed. -/
def close (frame : SetFrame) : SizedSet :=
  ⟨frame.operand.set.negateIf frame.negated, frame.operand.depth + 1⟩

end SetFrame

/-- The sets being read: the innermost open brackets and those around them. -/
structure SetStack where
  frame : SetFrame
  outer : List SetFrame

namespace SetStack

/-- One item more in the innermost brackets, if the flags allow its set. -/
def add? (stack : SetStack) (flags : SetFlags) (item : SizedSet) : Option SetStack :=
  if flags.allows item.set then some { stack with frame := stack.frame.add item } else none

/-- The hyphens or the bracket that stand for themselves at the front of a set. -/
def leadingItems (leading : Text) : List SizedSet :=
  leading.map fun c => ⟨CharSet.single c, 0⟩

end SetStack

/-- The set that a lexeme stands for, if it is an item of its own. -/
def SetFlags.ofLexeme? [PropertyTable] (flags : SetFlags) : SetLexeme → Option CharSet
  | .range first last => some (flags.close (.range first last))
  | .shorthand s negated => some ((CharSet.ofShorthand flags.unicode s).negateIf negated)
  | .property name negated => flags.ofProperty? name negated
  | .named c negated => some ((flags.close (CharSet.ofAsciiClass c)).negateIf negated)
  | _ => none

/-- The set of the lexemes after those that the stack has taken in. The lexeme that closes the outermost
brackets has to be the last. -/
def SizedSet.ofRest? [PropertyTable] (flags : SetFlags) (stack : SetStack) : List SetLexeme → Option SizedSet
  | [] => none
  | .opening negated leading :: rest =>
    ofRest? flags ⟨.opened negated (SetStack.leadingItems leading), stack.frame :: stack.outer⟩ rest
  | .operator op :: rest =>
    ofRest? flags { stack with frame := ⟨stack.frame.negated, some (stack.frame.operand, op), []⟩ } rest
  | .closing :: rest =>
    match stack.outer with
    | frame :: outer => do ofRest? flags (← SetStack.add? ⟨frame, outer⟩ flags stack.frame.close) rest
    | [] => if rest.isEmpty then some stack.frame.close else none
  | lexeme :: rest => do ofRest? flags (← stack.add? flags ⟨← flags.ofLexeme? lexeme, 0⟩) rest

/-- The set of the lexemes of a pair of brackets. -/
def SizedSet.ofLexemes? [PropertyTable] (flags : SetFlags) : List SetLexeme → Option SizedSet
  | .opening negated leading :: rest =>
    ofRest? flags ⟨.opened negated (SetStack.leadingItems leading), []⟩ rest
  | _ => none

end PathTemplate.Regex
