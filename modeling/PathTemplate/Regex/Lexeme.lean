/-
# PathTemplate.Regex.Lexeme — the words of a pattern.

A pattern is cut into lexemes: characters that stand for themselves, sets, anchors, repetitions, and the signs
that open and close groups and part alternatives. A bracketed set is one lexeme that holds the lexemes of its
own small language.

What a lexeme means can depend on the flags in force where it stands. Only one flag matters for cutting:
in verbose mode blanks and comments between lexemes are left out. Flags last to the end of the group they are
set in, so the cutter keeps the mode of every open group. Whether groups are balanced and repetitions have an
operand is not decided here.

A property is cut out by its name alone; what characters have it is a matter of the table that the name is looked
up in. References to earlier groups and looking around are not part of the language, and are refused.
-/
import PathTemplate.Regex.Anchor
import PathTemplate.Regex.Verbose

namespace PathTemplate.Regex

/-! ## Lexemes -/

/-- The switches that change what the following lexemes mean. -/
inductive Flag
  | caseless
  | multiLine
  | dotAll
  | swapGreed
  | unicode
  | crlf
  | verbose
deriving DecidableEq, Repr

/-- Flags with the values they are set to. -/
abbrev FlagSettings := List (Flag × Bool)

/-- What kind of group a bracket opens. -/
inductive GroupKind
  /-- A group that is only counted. -/
  | plain
  /-- A group whose text is kept under a name. -/
  | named (name : Text)
  /-- A group in which flags are set; perhaps none. -/
  | scoped (settings : FlagSettings)
deriving DecidableEq, Repr

/-- The operations between bracketed sets. -/
inductive SetOperator
  | intersection
  | difference
  | symmetricDifference
deriving DecidableEq, Repr

/-- A lexeme of a bracketed set. -/
inductive SetLexeme
  /-- A bracket opens; `leading` are the hyphens or the bracket that right after it stand for themselves. -/
  | opening (negated : Bool) (leading : Text)
  | range (first last : Char)
  | shorthand (s : CharSet.Shorthand) (negated : Bool)
  | property (name : Text) (negated : Bool)
  | named (c : CharSet.AsciiClass) (negated : Bool)
  | operator (op : SetOperator)
  | closing
deriving DecidableEq, Repr

/-- A lexeme of a pattern. -/
inductive Lexeme
  | char (c : Char)
  /-- A character beyond ASCII, written by two digits. Without Unicode these are a byte. -/
  | byte (c : Char)
  /-- Any character, or any but the end of a line. -/
  | dot
  | shorthand (s : CharSet.Shorthand) (negated : Bool)
  /-- The characters that have the property of the given name. -/
  | property (name : Text) (negated : Bool)
  /-- A bracketed set, from its opening to its closing lexeme. -/
  | bracketed (lexemes : List SetLexeme)
  /-- The start of the text, or of a line. -/
  | caret
  /-- The end of the text, or of a line. -/
  | dollar
  | textStart
  | textEnd
  | wordEdge (edge : WordEdge)
  | repetition (least : Nat) (most : Option Nat) (greedy : Bool)
  | bar
  | groupOpening (kind : GroupKind)
  | groupClosing
  | flags (settings : FlagSettings)
deriving DecidableEq, Repr

/-! ## Flags -/

/-- The flag that a letter stands for. -/
def Flag.ofLetter? : Char → Option Flag
  | 'i' => some caseless
  | 'm' => some multiLine
  | 's' => some dotAll
  | 'U' => some swapGreed
  | 'u' => some unicode
  | 'R' => some crlf
  | 'x' => some verbose
  | _ => none

/-- Flags as a group writes them: letters to switch on, then perhaps a hyphen and letters to switch off. No
flag may occur twice, and a hyphen needs a letter after it. -/
def FlagSettings.ofText? (t : Text) : Option FlagSettings := do
  let on ← (t.takeWhile (· != '-')).mapM Flag.ofLetter?
  let minus := t.dropWhile (· != '-')
  let off ← (minus.drop 1).mapM Flag.ofLetter?
  guard (minus.isEmpty || !off.isEmpty)
  guard (on ++ off).Nodup
  return on.map (·, true) ++ off.map (·, false)

/-- The value that the settings give to a flag, or the one it has. -/
def FlagSettings.value (settings : FlagSettings) (flag : Flag) (current : Bool) : Bool :=
  (settings.lookup flag).getD current

namespace Lexer

open PathTemplate.Reader

/-- What a backslash and the characters after it stand for. -/
inductive Escape
  | char (c : Char)
  | byte (c : Char)
  | shorthand (s : CharSet.Shorthand) (negated : Bool)
  | property (name : Text) (negated : Bool)
  | textStart
  | textEnd
  | wordEdge (edge : WordEdge)

/-- The character that an escape stands for, if it stands for one. -/
def Escape.char? : Escape → Option Char
  | char c => some c
  | byte c => some c
  | _ => none

/-! ## Characters by their code points -/

/-- The character whose code point the digits write, if there is one. -/
def charOfHex (digits : Text) : Reader Char := do
  let code := Text.hexNumber digits
  guard (digits ≠ [] ∧ code.isValidChar)
  return Char.ofNat code

/-- Take exactly `count` hexadecimal digits. -/
def hexDigits (verbose : Bool) : Nat → Reader Text
  | 0 => return []
  | count + 1 => do
    let c ← next
    guard (Text.isHexDigit c)
    ignored verbose
    return c :: (← hexDigits verbose count)

/-- A character by its code point: a fixed number of digits, or any number of them in braces. Two digits can also
be meant as a byte, which is the same thing only within ASCII. -/
def hexEscape (verbose : Bool) (count : Nat) : Reader Escape := do
  ignored verbose
  if ← skip '{' then
    ignored verbose
    let digits ← spaced verbose Text.isHexDigit
    expect '}'
    ignored verbose
    return .char (← charOfHex digits)
  else
    let c ← charOfHex (← hexDigits verbose count)
    return if count = 2 ∧ 0x80 ≤ c.toNat then .byte c else .char c

/-! ## Escapes -/

/-- May the character stand in the name of an edge of a word? -/
def isEdgeLetter (c : Char) : Bool := c.isAlpha || c == '-'

/-- The edge of a word with the given name. -/
def edgeOfName? (name : Text) : Option WordEdge :=
  if name = "start".toList then some .start
  else if name = "end".toList then some .finish
  else if name = "start-half".toList then some .startHalf
  else if name = "end-half".toList then some .finishHalf
  else none

/-- What the escape for a word boundary goes on with: the name of an edge in braces, or nothing. A brace that
a letter or hyphen follows has to hold a name; before anything else it is left for a repetition. -/
def boundary (verbose : Bool) : Reader WordEdge := do
  if (← peek) ≠ some '{' then return .boundary
  let first ← lookahead do
    expect '{'
    ignored verbose
    next
  if !isEdgeLetter first then return .boundary
  expect '{'
  ignored verbose
  let name ← spaced verbose isEdgeLetter
  expect '}'
  ofOption (edgeOfName? name)

/-- May the character stand in the name of a property? The name ends at the closing brace, and in verbose mode
blanks and comments are left out of it. -/
def isPropertyLetter (verbose : Bool) (c : Char) : Bool :=
  c != '}' && !(verbose && (Unicode.isBlank c || c == '#'))

/-- The name of a property: one character other than a backslash, or whatever stands in braces. -/
def propertyName (verbose : Bool) : Reader Text := do
  ignored verbose
  if ← skip '{' then
    ignored verbose
    let name ← spaced verbose (isPropertyLetter verbose)
    expect '}'
    return name
  else
    let c ← next
    guard (c ≠ '\\')
    ignored verbose
    return [c]

/-- What follows a backslash. ASCII characters other than letters and digits stand for themselves; of the
letters only those with a meaning are allowed, and digits have none. -/
def escape (verbose : Bool) : Reader Escape := do
  match ← next with
  | 'x' => hexEscape verbose 2
  | 'u' => hexEscape verbose 4
  | 'U' => hexEscape verbose 8
  | 'p' => return .property (← propertyName verbose) false
  | 'P' => return .property (← propertyName verbose) true
  | 'd' => return .shorthand .digit false
  | 'D' => return .shorthand .digit true
  | 's' => return .shorthand .space false
  | 'S' => return .shorthand .space true
  | 'w' => return .shorthand .word false
  | 'W' => return .shorthand .word true
  | 'a' => return .char '\x07'
  | 'f' => return .char '\x0C'
  | 't' => return .char '\t'
  | 'n' => return .char '\n'
  | 'r' => return .char '\r'
  | 'v' => return .char '\x0B'
  | 'A' => return .textStart
  | 'z' => return .textEnd
  | 'b' => return .wordEdge (← boundary verbose)
  | 'B' => return .wordEdge .notBoundary
  | '<' => return .wordEdge .start
  | '>' => return .wordEdge .finish
  | c => do
    guard (c.toNat < 0x80 ∧ !c.isAlphanum)
    return .char c

/-! ## Bracketed sets -/

/-- A character of a set or an escape in it, whose first character is `c`. -/
def setAtom (verbose : Bool) (c : Char) : Reader Escape :=
  if c = '\\' then escape verbose else return .char c

/-- The character by which a hyphen is judged: the one after it. In verbose mode it is the first after blanks,
and if that opens a comment, the first that is not blank in the comment. -/
def afterHyphen (verbose : Bool) (rest : Text) : Option Char :=
  if verbose then
    match rest.dropWhile Unicode.isBlank with
    | '#' :: comment => (comment.dropWhile Unicode.isBlank).head?.or rest.head?
    | c :: _ => some c
    | [] => rest.head?
  else rest.head?

/-- Does a hyphen that makes a range come next? Before a closing bracket or another hyphen it does not. -/
def rangeFollows (verbose : Bool) : Reader Bool := fun t =>
  let follows := match t with
    | '-' :: rest => afterHyphen verbose rest != some ']' && afterHyphen verbose rest != some '-'
    | _ => false
  some (follows, .all t)

/-- A range, a single character or a class of a set, whose first character is `c`. -/
def setItem (verbose : Bool) (c : Char) : Reader SetLexeme := do
  let first ← setAtom verbose c
  ignored verbose
  if ← rangeFollows verbose then
    expect '-'
    ignored verbose
    let last ← setAtom verbose (← next)
    let a ← ofOption first.char?
    let z ← ofOption last.char?
    guard (a ≤ z)
    return .range a z
  else
    match first with
    | .char a => return .range a a
    | .byte a => return .range a a
    | .shorthand s negated => return .shorthand s negated
    | .property name negated => return .property name negated
    | _ => failure

/-- A named class, after its opening bracket. -/
def asciiClass : Reader SetLexeme := do
  expect ':'
  let negated ← skip '^'
  let name ← run (· != ':')
  expect ':'
  expect ']'
  return .named (← ofOption (CharSet.AsciiClass.ofName? name)) negated

/-- What follows an opening bracket: perhaps the sign of negation, then hyphens that stand for themselves, or
a closing bracket that does. -/
def setOpening (verbose : Bool) : Reader SetLexeme := do
  ignored verbose
  let negated ← skip '^'
  ignored verbose
  let hyphens ← spaced verbose (· == '-')
  if !hyphens.isEmpty then return .opening negated hyphens
  if ← skip ']' then return .opening negated [']']
  return .opening negated []

/-- An operator between sets, which is its sign twice, of which the first has been taken; or an item that
begins with the sign. -/
def setOperator (verbose : Bool) (sign : Char) (op : SetOperator) : Reader SetLexeme :=
  (do
    expect sign
    return .operator op) <|> setItem verbose sign

/-- A lexeme inside a set, whose first character is `c`. -/
def setLexeme (verbose : Bool) (c : Char) : Reader SetLexeme :=
  match c with
  | '[' => asciiClass <|> setOpening verbose
  | ']' => return .closing
  | '&' => setOperator verbose '&' .intersection
  | '-' => setOperator verbose '-' .difference
  | '~' => setOperator verbose '~' .symmetricDifference
  | c => setItem verbose c

/-- The number of sets that are open inside the outermost one after the lexeme; none if it closes that. -/
def openSets (openInside : Nat) : SetLexeme → Option Nat
  | .opening .. => some (openInside + 1)
  | .closing => if openInside = 0 then none else some (openInside - 1)
  | _ => some openInside

/-- The lexemes of a set after its opening one, up to the one that closes it. -/
def setRest (verbose : Bool) (openInside : Nat) (t : Text) : Option (List SetLexeme × Remainder t) :=
  match _h : visible verbose t with
  | [] => none
  | c :: rest =>
    have shorter : rest.length < t.length := by
      have := length_visible verbose t
      rw [_h, List.length_cons] at this
      omega
    match setLexeme verbose c rest with
    | none => none
    | some (lexeme, ⟨rest', _⟩) =>
      match openSets openInside lexeme with
      | none => some ([lexeme], ⟨rest', by omega⟩)
      | some openInside' =>
        match setRest verbose openInside' rest' with
        | none => none
        | some (lexemes, ⟨rest'', _⟩) => some (lexeme :: lexemes, ⟨rest'', by omega⟩)
termination_by t.length
decreasing_by omega

/-- A bracketed set, after its opening bracket. -/
def bracketed (verbose : Bool) : Reader (List SetLexeme) := do
  return (← setOpening verbose) :: (← setRest verbose 0)

/-! ## Repetitions -/

/-- A number of a counted repetition. Blanks may stand around it. -/
def count (verbose : Bool) : Reader Nat := do
  ignored verbose
  let _ ← run Unicode.isBlank
  let digits ← spaced verbose Char.isDigit
  let _ ← run Unicode.isBlank
  let n := Text.decimalNumber digits
  guard (digits ≠ [] ∧ n < 0x100000000)
  return n

/-- A counted repetition, after its opening brace: a number, a least number, or a least and a most number. -/
def counted (verbose : Bool) : Reader Lexeme := do
  let least ← count verbose
  let most ← if ← skip ',' then do
      ignored verbose
      if (← peek) = some '}' then pure none
      else do
        let most ← count verbose
        guard (least ≤ most)
        pure (some most)
    else pure (some least)
  expect '}'
  ignored verbose
  return .repetition least most (!(← skip '?'))

/-- A repetition by a sign, after the sign. -/
def uncounted (least : Nat) (most : Option Nat) : Reader Lexeme := do
  return .repetition least most (!(← skip '?'))

/-! ## Groups -/

/-- May the character begin the name of a group? -/
def startsGroupName (c : Char) : Bool := c == '_' || Unicode.isAlphabetic c

/-- May the character stand in the name of a group after its first character? -/
def continuesGroupName (c : Char) : Bool :=
  c == '_' || c == '.' || c == '[' || c == ']' || Unicode.isAlphanumeric c

/-- The name of a group, up to the angle bracket that ends it. -/
def groupName : Reader Text := do
  let name ← run (· != '>')
  expect '>'
  match name with
  | [] => failure
  | c :: rest => do
    guard (startsGroupName c ∧ rest.all continuesGroupName)
    return name

/-- Flags after the question mark of a group: with a colon they open a group, without one they are set for the
rest of the group they stand in. -/
def flagGroup : Reader Lexeme := do
  let spec ← run fun c => c != ':' && c != ')'
  let settings ← ofOption (FlagSettings.ofText? spec)
  if ← skip ':' then return .groupOpening (.scoped settings)
  expect ')'
  guard (settings ≠ [])
  return .flags settings

/-- A group or a setting of flags, after the opening bracket. Looking around is not allowed. -/
def group (verbose : Bool) : Reader Lexeme := do
  ignored verbose
  if !(← skip '?') then return .groupOpening .plain
  match ← peek with
  | some 'P' => do
    expect 'P'
    expect '<'
    return .groupOpening (.named (← groupName))
  | some '<' => do
    expect '<'
    return .groupOpening (.named (← groupName))
  | _ => flagGroup

/-! ## Lexemes of a pattern -/

/-- A lexeme whose first character is `c`. A closing bracket or brace that closes nothing stands for itself. -/
def lexeme (verbose : Bool) (c : Char) : Reader Lexeme := do
  match c with
  | '(' => group verbose
  | ')' => return .groupClosing
  | '|' => return .bar
  | '[' => return .bracketed (← bracketed verbose)
  | '?' => uncounted 0 (some 1)
  | '*' => uncounted 0 none
  | '+' => uncounted 1 none
  | '{' => counted verbose
  | '.' => return .dot
  | '^' => return .caret
  | '$' => return .dollar
  | '\\' => do
    match ← escape verbose with
    | .char c => return .char c
    | .byte c => return .byte c
    | .shorthand s negated => return .shorthand s negated
    | .property name negated => return .property name negated
    | .textStart => return .textStart
    | .textEnd => return .textEnd
    | .wordEdge edge => return .wordEdge edge
  | c => return .char c

end Lexer

/-! ## Cutting a pattern -/

/-- Whether verbose mode is on in the group being cut, and in the groups around it, the innermost first. -/
structure Mode where
  verbose : Bool
  outer : List Bool
deriving DecidableEq, Repr

/-- The mode after a lexeme. A closing bracket without a group changes nothing. -/
def Mode.after (mode : Mode) : Lexeme → Mode
  | .groupOpening (.scoped settings) =>
    ⟨settings.value .verbose mode.verbose, mode.verbose :: mode.outer⟩
  | .groupOpening _ => ⟨mode.verbose, mode.verbose :: mode.outer⟩
  | .groupClosing =>
    match mode.outer with
    | [] => mode
    | verbose :: outer => ⟨verbose, outer⟩
  | .flags settings => { mode with verbose := settings.value .verbose mode.verbose }
  | _ => mode

/-- The lexemes of a pattern, read in the given mode. -/
def lexemes? (mode : Mode) (t : Text) : Option (List Lexeme) :=
  match _h : Lexer.visible mode.verbose t with
  | [] => some []
  | c :: rest =>
    have shorter : rest.length < t.length := by
      have := Lexer.length_visible mode.verbose t
      rw [_h, List.length_cons] at this
      omega
    match Lexer.lexeme mode.verbose c rest with
    | none => none
    | some (lexeme, ⟨rest', _⟩) => (lexemes? (mode.after lexeme) rest').map (lexeme :: ·)
termination_by t.length
decreasing_by omega

end PathTemplate.Regex
