import Avenger.Reader.Program
import Mathlib.Data.List.Forall2

/-!
# Printing programs

A program is printed as slots: one for each token, with the kind of the token, the texts that
it may have and, for the first token of a statement, its line.  Tokens that fill the slots
are a print of the program.

Expressions have levels, from assignments at 0 up to names and literals at 9.  An operand
stands in a position that asks for a level, and is put in parentheses exactly when its own
level is below it.  A negation always brings its own parentheses.
-/

namespace Avenger

/-- What a printed token has to be. -/
structure Slot where
  kind : Token.Kind
  /-- The texts that the token may have. -/
  reads : String → Prop
  /-- The lines that it may stand on. -/
  line : Nat → Prop

namespace Slot

/-- A token is as a slot asks. -/
structure Holds (slot : Slot) (token : Token) : Prop where
  kind : token.kind = slot.kind
  reads : slot.reads token.text
  line : slot.line token.line

/-- A token of which only the kind matters. -/
def plain (kind : Token.Kind) : Slot := { kind, reads := fun _ => True, line := fun _ => True }

def word (name : String) : Slot :=
  { kind := .identifier, reads := (· = name), line := fun _ => True }

def text (value : String) : Slot :=
  { kind := .string, reads := (· = value), line := fun _ => True }

/-- A number, with any text that reads as it. -/
def number (value : Float) : Slot :=
  { kind := .number, reads := fun text => Number.ofText? text = some value,
    line := fun _ => True }

def arithmetic (operator : Arithmetic) : Slot :=
  { kind := .arithmetic, reads := fun text => Arithmetic.ofSymbol? text = some operator,
    line := fun _ => True }

def comparison (operator : Comparison) : Slot :=
  { kind := .comparison, reads := fun text => Comparison.ofSymbol? text = some operator,
    line := fun _ => True }

def connective (operator : Connective) : Slot :=
  { kind := .logical, reads := fun text => Connective.ofSymbol? text = some operator,
    line := fun _ => True }

def update (operator : Arithmetic) : Slot :=
  { kind := .compoundAssign, reads := fun text => Reader.updateOperator? text = some operator,
    line := fun _ => True }

/-- An operand in a position, in parentheses if its level is below that of the position. -/
def operand (position level : Nat) (slots : List Slot) : List Slot :=
  if level < position then plain .openParen :: slots ++ [plain .closeParen] else slots

/-- Items with a comma between each two. -/
def separated : List (List Slot) → List Slot
  | [] => []
  | [item] => item
  | item :: rest => item ++ plain .comma :: separated rest

/-- Statements between braces. -/
def block (body : List Slot) : List Slot :=
  plain .openBrace :: body ++ [plain .closeBrace]

/-- The default of a multiverse.  Without statements it may be left out. -/
def fallback (blank : Bool) (body : List Slot) : List Slot :=
  if body.isEmpty && !blank then [] else plain .default :: plain .colon :: body

/-- Slots of which the first is on a line. -/
def onLine (line : Nat) : List Slot → List Slot
  | [] => []
  | slot :: rest => { slot with line := fun other => slot.line other ∧ other = line } :: rest

end Slot

/-- The level of an operator. -/
def Arithmetic.level : Arithmetic → Nat
  | add | subtract => 3
  | multiply | divide | modulo => 4
  | power => 5

/-- The level of an expression. -/
def Expr.level : Expr → Nat
  | .assign _ _ | .update _ _ _ => 0
  | .connective _ _ _ => 1
  | .comparison _ _ _ => 2
  | .arithmetic operator _ _ => operator.level
  | .call _ _ => 6
  | .member _ _ => 7
  | .minus _ => 8
  | .number _ | .text _ | .null | .name _ | .not _ => 9

mutual

/-- The print of an expression. -/
def Expr.slots : Expr → List Slot
  | .number value => [.number value]
  | .text value => [.text value]
  | .null => [.plain .null]
  | .name identifier => [.word identifier]
  | .arithmetic operator left right =>
      Slot.operand operator.level left.level left.slots ++
        .arithmetic operator :: Slot.operand (operator.level + 1) right.level right.slots
  | .comparison operator left right =>
      Slot.operand 2 left.level left.slots ++
        .comparison operator :: Slot.operand 3 right.level right.slots
  | .connective operator left right =>
      Slot.operand 1 left.level left.slots ++
        .connective operator :: Slot.operand 2 right.level right.slots
  | .not operand =>
      .plain .openParen :: .plain .not :: Slot.operand 2 operand.level operand.slots ++
        [.plain .closeParen]
  | .minus operand => .plain .minus :: Slot.operand 9 operand.level operand.slots
  | .assign target value =>
      Slot.operand 1 target.level target.slots ++
        .plain .equals :: value.slots
  | .update operator target value =>
      Slot.operand 1 target.level target.slots ++
        .update operator :: value.slots
  | .member object index =>
      Slot.operand 7 object.level object.slots ++
        .plain .openBracket :: index.slots ++ [.plain .closeBracket]
  | .call callee arguments =>
      Slot.operand 6 callee.level callee.slots ++
        .plain .openParen :: Slot.separated (Expr.listSlots arguments) ++ [.plain .closeParen]

/-- List counterpart of `Expr.slots`. -/
def Expr.listSlots : List Expr → List (List Slot)
  | [] => []
  | expression :: rest =>
      expression.slots :: Expr.listSlots rest

end

/-- The print of an expression in parentheses. -/
def Expr.conditionSlots (condition : Expr) : List Slot :=
  .plain .openParen :: condition.slots ++ [.plain .closeParen]

/-- The print of an optional expression after a token. -/
def Expr.optionSlots (before : List Slot) : Option Expr → List Slot
  | none => []
  | some expression => before ++ expression.slots

section Statements

-- Whether a multiverse is printed with a default that has no statements.
variable (blank : Bool)

mutual

/-- The print of a statement, of which the first token is on its line. -/
def Stmt.slots : Stmt → List Slot
  | .mk line action => Slot.onLine line action.slots

/-- The print of what a statement does. -/
def Action.slots : Action → List Slot
  | .expression value => value.slots ++ [.plain .semicolon]
  | .declare name constant value =>
      .plain (if constant then .newEternal else .newAvenger) :: .word name ::
        Expr.optionSlots [.plain .equals] value ++ [.plain .semicolon]
  | .team name size values =>
      .plain .team :: .word name :: .plain .openBracket :: size.slots ++
        .plain .closeBracket :: .plain .equals :: .plain .openBrace ::
          Slot.separated (Expr.listSlots values) ++ [.plain .closeBrace, .plain .semicolon]
  | .branch condition body alternatives otherwise =>
      .plain .ifWorthy :: condition.conditionSlots ++ Slot.block (Stmt.listSlots body) ++
        Clause.alternativeSlots alternatives ++ Stmt.otherwiseSlots otherwise
  | .loopWhile condition body =>
      .plain .fightUntil :: condition.conditionSlots ++ Slot.block (Stmt.listSlots body)
  | .loopRange iterator start stop step body =>
      .plain .wakandaForEach :: .plain .openParen :: .word iterator :: .plain .inWord ::
        start.slots ++ .plain .toWord :: stop.slots ++
          Expr.optionSlots [.plain .stepWord] step ++ .plain .closeParen ::
            Slot.block (Stmt.listSlots body)
  | .loopFor header condition modification body =>
      .plain .wakandaFor :: .plain .openParen :: header.slots ++ condition.slots ++
        .plain .semicolon :: modification.slots ++ .plain .closeParen ::
          Slot.block (Stmt.listSlots body)
  | .multiverse discriminant cases fallback =>
      .plain .multiverse :: discriminant.conditionSlots ++ .plain .openBrace ::
        Clause.caseSlots cases ++
          Slot.fallback blank (Stmt.listSlots fallback) ++ [.plain .closeBrace]
  | .assemble name parameters body =>
      .plain .assemble :: .word name :: .plain .openParen ::
        Slot.separated (parameters.map fun parameter => [.word parameter]) ++
          .plain .closeParen :: Slot.block (Stmt.listSlots body)
  | .snap value => .plain .snap :: Expr.optionSlots [] value ++ [.plain .semicolon]
  | .endGame => [.plain .endGame, .plain .semicolon]

/-- The prints of statements, one after the other. -/
def Stmt.listSlots : List Stmt → List Slot
  | [] => []
  | statement :: rest => statement.slots ++ Stmt.listSlots rest

/-- The print of the clauses that an `ifWorthy` goes on with. -/
def Clause.alternativeSlots : List Clause → List Slot
  | [] => []
  | .mk test body :: rest =>
      .plain .otherwise :: .plain .ifWorthy :: test.conditionSlots ++
        Slot.block (Stmt.listSlots body) ++ Clause.alternativeSlots rest

/-- The print of the last body of an `ifWorthy`. -/
def Stmt.otherwiseSlots : Option (List Stmt) → List Slot
  | none => []
  | some body => .plain .otherwise :: Slot.block (Stmt.listSlots body)

/-- The print of the cases of a multiverse. -/
def Clause.caseSlots : List Clause → List Slot
  | [] => []
  | .mk test body :: rest =>
      .plain .madness :: test.slots ++ .plain .colon :: Stmt.listSlots body ++
        Clause.caseSlots rest

end

end Statements

mutual

/-- Every constant in a statement is declared with a value. -/
def Stmt.Complete : Stmt → Prop
  | .mk _ action => action.Complete

/-- Every constant in what a statement does is declared with a value. -/
def Action.Complete : Action → Prop
  | .declare _ constant value => constant = true → value.isSome
  | .branch _ body alternatives otherwise =>
      Stmt.ListComplete body ∧ Clause.ListComplete alternatives ∧
        Stmt.OptionComplete otherwise
  | .loopWhile _ body | .loopRange _ _ _ _ body | .assemble _ _ body => Stmt.ListComplete body
  | .loopFor header _ _ body => header.Complete ∧ Stmt.ListComplete body
  | .multiverse _ cases fallback => Clause.ListComplete cases ∧ Stmt.ListComplete fallback
  | .expression _ | .team _ _ _ | .snap _ | .endGame => True

/-- List counterpart of `Stmt.Complete`. -/
def Stmt.ListComplete : List Stmt → Prop
  | [] => True
  | statement :: rest => statement.Complete ∧ Stmt.ListComplete rest

/-- Optional counterpart of `Stmt.ListComplete`. -/
def Stmt.OptionComplete : Option (List Stmt) → Prop
  | none => True
  | some body => Stmt.ListComplete body

/-- Every constant in the bodies of clauses is declared with a value. -/
def Clause.ListComplete : List Clause → Prop
  | [] => True
  | .mk _ body :: rest => Stmt.ListComplete body ∧ Clause.ListComplete rest

end

/-- Tokens are a print of a program. -/
def Program.Printed (blank : Bool) (program : Program) (tokens : List Token) : Prop :=
  List.Forall₂ Slot.Holds (Stmt.listSlots blank program) tokens

end Avenger
