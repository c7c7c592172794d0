/-
# PathTemplate.Session — working with templates step by step.

A session has a compiler and a grammar for going back to paths, and keeps templates, patterns and matchers
under names. Each command either succeeds and may change the session, or fails and leaves it as it was. What
has been kept does not change when the compiler or the grammar does: a template stays as it was read, and a
matcher as it was made.
-/
import PathTemplate.Matcher
import PathTemplate.Regex.StandardProperties
import PathTemplate.Reverse
import PathTemplate.Settings.Document

namespace PathTemplate

/-! ## Named slots -/

/-- Things kept under names; the latest of a name counts. -/
abbrev Slots (α : Type) := List (Text × α)

namespace Slots

/-- Keep a thing under a name. -/
def put (slots : Slots α) (name : Text) (a : α) : Slots α := (name, a) :: slots

/-- The thing kept under a name. -/
def get? (slots : Slots α) (name : Text) : Option α := slots.lookup name

end Slots

/-! ## Commands and replies -/

/-- What a session can be asked to do. Names are those of slots, except where types are concerned. -/
inductive Command
  /-- Take the compiler and the grammar from a settings document, each as far as it can be built. -/
  | configure (document : Text)
  | setDefaultType (name : Text)
  /-- Rebuild the compiler with one type more. Its default type is the built-in one then. -/
  | addType (name fragment : Text)
  | parse (tree : Text) (template : Text)
  | same (tree other : Text)
  | compileTree (tree pattern : Text)
  | compile (template : Text) (pattern : Text)
  /-- Make a matcher of the pattern, under the same name. -/
  | prepare (pattern : Text)
  | matchPath (pattern : Text) (path : Text)
  | reverseTree (tree : Text) (values : Supply)
  | reverse (template : Text) (values : Supply)
  | prune (template : Text) (values : Supply)

/-- The answer to a command. -/
inductive Reply
  | configured (compiler : Except Error Compiler) (grammar : Except Error Grammar)
  | compiler (c : Compiler)
  | parsed (t : Template)
  | same (equal : Bool)
  | compiled (p : Pattern)
  | prepared
  | matched (values : Option (List (Text × Text)))
  | path (t : Text)
  | pruned (t : Text)

/-- Why a command failed. -/
inductive Refusal
  /-- Nothing is kept under the name. -/
  | noSlot (name : Text)
  | failed (e : Error)

/-- The state of a session. -/
structure Session where
  compiler : Compiler
  grammar : Grammar
  trees : Slots Template
  patterns : Slots Pattern
  matchers : Slots Matcher

namespace Session

/-- The standard compiler and grammar, and nothing kept. -/
def start : Session := ⟨.standard, .standard, [], [], []⟩

/-! ## Running commands -/

variable [Regex.PropertyTable]

/-- The thing kept under a name, or the refusal. -/
def find (slots : Slots α) (name : Text) : Except Refusal α :=
  match slots.get? name with
  | some a => .ok a
  | none => .error (.noSlot name)

/-- The compiler with one type more and the built-in default type. -/
def extendedCompiler (c : Compiler) (name fragment : Text) : Except Error Compiler := do
  return .ofCatalog c.grammar (← c.catalog.withType? name fragment)

/-- The value, or what was there before it failed. -/
def orKeep (result : Except Error α) (current : α) : α :=
  match result with
  | .ok a => a
  | .error _ => current

/-- Run a command: the reply and the session after it, or the refusal. -/
def run? (s : Session) : Command → Except Refusal (Reply × Session)
  | .configure document => do
    let settings ← (Settings.ofDocument? document).mapError .failed
    let compiler := settings.compiler
    let grammar := settings.grammar
    return (.configured compiler grammar,
      { s with compiler := orKeep compiler s.compiler, grammar := orKeep grammar s.grammar })
  | .setDefaultType name => do
    let c ← (s.compiler.withDefaultType? name).mapError .failed
    return (.compiler c, { s with compiler := c })
  | .addType name fragment => do
    let c ← (extendedCompiler s.compiler name fragment).mapError .failed
    return (.compiler c, { s with compiler := c })
  | .parse tree template => do
    let t ← (Template.parse? s.grammar template).mapError .failed
    return (.parsed t, { s with trees := s.trees.put tree t })
  | .same tree other => do
    let t ← find s.trees tree
    let o ← find s.trees other
    return (.same (t = o), s)
  | .compileTree tree pattern => do
    let t ← find s.trees tree
    let p ← (s.compiler.compileTemplate t).mapError .failed
    return (.compiled p, { s with patterns := s.patterns.put pattern p })
  | .compile template pattern => do
    let p ← (s.compiler.compile template).mapError .failed
    return (.compiled p, { s with patterns := s.patterns.put pattern p })
  | .prepare pattern => do
    let p ← find s.patterns pattern
    let m ← (Matcher.ofPattern? p).mapError .failed
    return (.prepared, { s with matchers := s.matchers.put pattern m })
  | .matchPath pattern path => do
    let m ← find s.matchers pattern
    return (.matched (m.values? path), s)
  | .reverseTree tree values => do
    let t ← find s.trees tree
    let path ← (s.grammar.reverseTemplate t values).mapError .failed
    return (.path path, s)
  | .reverse template values => do
    let path ← (s.grammar.reverse template values).mapError .failed
    return (.path path, s)
  | .prune template values => do
    let t ← (s.grammar.prune template values).mapError .failed
    return (.pruned t, s)

/-- Run a command: the reply or the refusal, and the session after it. -/
def step (s : Session) (c : Command) : Except Refusal Reply × Session :=
  match s.run? c with
  | .ok (reply, s') => (.ok reply, s')
  | .error refusal => (.error refusal, s)

/-- Run commands one after another. -/
def replies (s : Session) : List Command → List (Except Refusal Reply)
  | [] => []
  | c :: rest =>
    let (reply, s') := s.step c
    reply :: s'.replies rest

end Session

end PathTemplate
