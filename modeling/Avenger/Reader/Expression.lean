import Avenger.Reader
import Avenger.Number.Numeral
import Avenger.Program

/-!
# Reading expressions

One reader for each level of precedence, from primaries up to assignments.  A reader that
meets a whole expression inside another one, or the operand of a negation, gets the reader
for it as an argument; `expressionWithin` and `comparisonWithin` close that circle, as far
as the budget goes.
-/

namespace Avenger.Reader

/-- Names, literals, groups in parentheses or braces, and negations. -/
def primary (inner operand : Reader Expr) : Reader Expr := do
  let token ← peek
  match token.kind with
  | .identifier =>
      advance
      return .name token.text
  | .number =>
      advance
      match Number.ofText? token.text with
      | some value => return .number value
      | none => fail token.line (.invalidNumber token.text)
  | .string =>
      advance
      return .text token.text
  | .null =>
      advance
      return .null
  | .openParen =>
      advance
      let grouped ← inner
      let _ ← expect .closeParen "expected ')' after parenthesized expression"
      return grouped
  | .openBrace =>
      advance
      let grouped ← inner
      let _ ← expect .closeBrace "expected '\x7d' after braced expression"
      return grouped
  | .not =>
      advance
      return .not (← operand)
  | .reserved => fail token.line (.reservedWord token.text)
  | _ => fail token.line (.unexpected token.text)

/-- A primary, perhaps after a minus sign. -/
def unary (inner operand : Reader Expr) : Reader Expr := do
  if ← skip? .minus then return .minus (← primary inner operand)
  else primary inner operand

/-- A unary expression with any number of indexes. -/
def member (inner operand : Reader Expr) : Reader Expr := do
  let object ← unary inner operand
  foldWhile (fun _ token => token.kind = .openBracket)
    (fun object => do
      advance
      let index ← inner
      let _ ← expect .closeBracket "expected ']' after index"
      return .member object index) object

/-- The arguments of a call, after its opening parenthesis. -/
def arguments (inner : Reader Expr) : Reader (List Expr) := do
  let token ← peek
  let values ← if token.kind = .closeParen then pure [] else separated inner
  let _ ← expect .closeParen "expected ')' after arguments"
  return values

/-- A member expression with any number of argument lists. -/
def call (inner operand : Reader Expr) : Reader Expr := do
  let callee ← member inner operand
  foldWhile (fun _ token => token.kind = .openParen)
    (fun callee => do
      advance
      return .call callee (← arguments inner)) callee

/-- The operator of a token if it is one of the given ones. -/
def arithmeticIn? (operators : List Arithmetic) (token : Token) : Option Arithmetic :=
  if token.kind = .arithmetic then
    (Arithmetic.ofSymbol? token.text).filter operators.contains
  else none

/-- Operands joined, from left to right, by any of the given operators. -/
def arithmetic (operators : List Arithmetic) (operand : Reader Expr) : Reader Expr := do
  let left ← operand
  foldWhile (fun _ token => (arithmeticIn? operators token).isSome)
    (fun left => do
      let token ← peek
      advance
      let right ← operand
      return match arithmeticIn? operators token with
        | some operator => .arithmetic operator left right
        | none => left) left

/-- Calls joined by powers, from left to right. -/
def power (inner operand : Reader Expr) : Reader Expr :=
  arithmetic [.power] (call inner operand)

/-- Powers joined by multiplications, divisions and remainders. -/
def product (inner operand : Reader Expr) : Reader Expr :=
  arithmetic [.multiply, .divide, .modulo] (power inner operand)

/-- Products joined by additions and subtractions. -/
def sum (inner operand : Reader Expr) : Reader Expr :=
  arithmetic [.add, .subtract] (product inner operand)

/-- Operands joined, from left to right, by operators of the given kind of token. -/
def joined {Operator : Type} (kind : Token.Kind) (operator? : String → Option Operator)
    (join : Operator → Expr → Expr → Expr) (operand : Reader Expr) : Reader Expr := do
  let left ← operand
  foldWhile (fun _ token => token.kind = kind)
    (fun left => do
      let token ← peek
      advance
      match operator? token.text with
      | some operator => return join operator left (← operand)
      | none => fail token.line (.unknownOperator token.text)) left

/-- Sums joined by comparisons. -/
def comparisonOver (inner operand : Reader Expr) : Reader Expr :=
  joined .comparison Comparison.ofSymbol? .comparison (sum inner operand)

/-- Comparisons joined by connectives. -/
def logical (inner operand : Reader Expr) : Reader Expr :=
  joined .logical Connective.ofSymbol? .connective (comparisonOver inner operand)

/-- The operator in the symbol of an update, which ends in any number of equals signs. -/
def updateOperator? (symbol : String) : Option Arithmetic :=
  Arithmetic.ofSymbol? (String.ofList (symbol.toList.reverse.dropWhile (· == '=')).reverse)

/-- A logical expression, or one that is assigned to.  Assignments group to the right. -/
def assignmentOver (inner operand : Reader Expr) : Reader Expr := do
  let target ← logical inner operand
  let token ← peek
  match token.kind with
  | .equals =>
      advance
      return .assign target (← inner)
  | .compoundAssign =>
      advance
      match updateOperator? token.text with
      | some operator => return .update operator target (← inner)
      | none => fail token.line (.unknownOperator token.text)
  | _ => return target

mutual

/-- A whole expression that goes inward at most `budget` times. -/
def expressionWithin : Nat → Reader Expr
  | 0 => outOfBudget
  | budget + 1 => fun setting tokens =>
      assignmentOver (expressionWithin budget) (comparisonWithin budget) setting tokens

/-- A comparison that goes inward at most `budget` times. -/
def comparisonWithin : Nat → Reader Expr
  | 0 => outOfBudget
  | budget + 1 => fun setting tokens =>
      comparisonOver (expressionWithin budget) (comparisonWithin budget) setting tokens

end

/-- A whole expression. -/
def expression : Reader Expr :=
  fun setting tokens => expressionWithin setting.budget setting tokens

end Avenger.Reader
