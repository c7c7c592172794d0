/-
# PathTemplate.Proofs.Regex.Properties — patterns that name no property.

The table of properties is asked only where a pattern names one. A pattern that names none is read in the same way
whatever table is given, so what is found out about it with the table that knows no property holds of every table.
This is how closed facts about single patterns are carried over: they are decided with that table.
-/
import PathTemplate.Proofs.Regex.Grouping

namespace PathTemplate.Regex

/-- The table that knows no property. -/
@[reducible] def PropertyTable.empty : PropertyTable := ⟨fun _ => none⟩

/-- Does the lexeme of a set name a property? -/
def SetLexeme.namesProperty : SetLexeme → Bool
  | property _ _ => true
  | _ => false

/-- Does the lexeme, or one of the set that it holds, name a property? -/
def Lexeme.namesProperty : Lexeme → Bool
  | property _ _ => true
  | bracketed lexemes => lexemes.any SetLexeme.namesProperty
  | _ => false

/-- Does the pattern name a property? -/
def namesProperty (pattern : Text) : Bool :=
  (lexemes? ⟨false, []⟩ pattern).any fun lexemes => lexemes.any Lexeme.namesProperty

variable [PropertyTable]

theorem SizedSet.ofRest?_eq_empty {flags : SetFlags} {stack : SetStack} {lexemes : List SetLexeme}
    (h : lexemes.any SetLexeme.namesProperty = false) :
    ofRest? flags stack lexemes = @ofRest? .empty flags stack lexemes := by
  induction lexemes generalizing stack with
  | nil => rfl
  | cons lexeme lexemes ih =>
    obtain ⟨hlexeme, hlexemes⟩ := Bool.or_eq_false_iff.1 h
    have hrest (next : Option SetStack) :
        (next.bind fun stack => ofRest? flags stack lexemes) =
          next.bind fun stack => @ofRest? .empty flags stack lexemes :=
      congrArg next.bind (funext fun _ => ih hlexemes)
    cases lexeme with
    | opening negated leading => exact ih hlexemes
    | operator op => exact ih hlexemes
    | closing =>
      obtain ⟨frame, outer⟩ := stack
      cases outer with
      | nil => rfl
      | cons next outer => exact hrest _
    | property name negated => cases hlexeme
    | range _ _ | shorthand _ _ | named _ _ => exact hrest _

theorem SizedSet.ofLexemes?_eq_empty {flags : SetFlags} {lexemes : List SetLexeme}
    (h : lexemes.any SetLexeme.namesProperty = false) :
    ofLexemes? flags lexemes = @ofLexemes? .empty flags lexemes := by
  cases lexemes with
  | nil => rfl
  | cons lexeme lexemes =>
    cases lexeme with
    | opening negated leading => exact ofRest?_eq_empty (Bool.or_eq_false_iff.1 h).2
    | _ => rfl

/-- A lexeme that names no property is taken in without the table. -/
theorem Assembly.step?_eq_empty {a : Assembly} {lexeme : Lexeme} (h : lexeme.namesProperty = false) :
    a.step? lexeme = @step? .empty a lexeme := by
  cases lexeme with
  | bracketed lexemes => exact congrArg (Option.bind · a.addSet?) (SizedSet.ofLexemes?_eq_empty h)
  | property name negated => cases h
  | groupOpening kind => cases kind <;> rfl
  | _ => rfl

theorem Assembly.foldlM_eq_empty {a : Assembly} {lexemes : List Lexeme}
    (h : lexemes.any Lexeme.namesProperty = false) :
    lexemes.foldlM step? a = lexemes.foldlM (@step? .empty) a := by
  induction lexemes generalizing a with
  | nil => rfl
  | cons lexeme lexemes ih =>
    obtain ⟨hlexeme, hlexemes⟩ := Bool.or_eq_false_iff.1 h
    rw [List.foldlM_cons, List.foldlM_cons, step?_eq_empty hlexeme]
    exact congrArg (Option.bind _) (funext fun _ => ih hlexemes)

variable {pattern : Text}

/-- A pattern that names no property is assembled without the table. -/
theorem assemble?_eq_empty (h : namesProperty pattern = false) : assemble? pattern = @assemble? .empty pattern := by
  unfold assemble?
  cases hread : lexemes? ⟨false, []⟩ pattern with
  | none => rfl
  | some lexemes =>
    rw [namesProperty, hread] at h
    exact Assembly.foldlM_eq_empty h

theorem parse?_eq_empty (h : namesProperty pattern = false) : parse? pattern = @parse? .empty pattern := by
  ext r
  rw [parse?_eq_some_iff, @parse?_eq_some_iff .empty, assemble?_eq_empty h]

theorem isValid_eq_empty (h : namesProperty pattern = false) : isValid pattern = @isValid .empty pattern :=
  congrArg Option.isSome (parse?_eq_empty h)

theorem nesting?_eq_empty (h : namesProperty pattern = false) : nesting? pattern = @nesting? .empty pattern := by
  rw [nesting?, assemble?_eq_empty h]
  rfl

end PathTemplate.Regex
