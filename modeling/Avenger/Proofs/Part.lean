import Avenger.Reader.Program

/-!
# Parts of programs and loops of readers

Every part of a program has a reader, and every row of parts has a loop that reads it.  A pass of
such a loop goes on from what the passes before it have read.  The readers are made of these loops.
-/

namespace Avenger.Reader

variable {α : Type}

/-- The operand of a negation. -/
def comparison : Reader Expr :=
  fun setting tokens => comparisonWithin setting.budget setting tokens

/-- The parts of programs that have a reader of their own, by what they are read as. -/
inductive Part : Type → Type where
  | primary : Part Expr
  | unary : Part Expr
  | member : Part Expr
  | call : Part Expr
  | power : Part Expr
  | product : Part Expr
  | sum : Part Expr
  | comparison : Part Expr
  | logical : Part Expr
  | expression : Part Expr
  | declaration (constant : Bool) : Part Action
  | branch : Part Action
  | loopWhile : Part Action
  | team : Part Action
  | multiverse : Part Action
  | loopRange : Part Action
  | loopFor : Part Action
  | assemble : Part Action
  | parameter : Part String
  | statement : Part Stmt
  | block (construct : String) : Part (List Stmt)
  /-- The statements of a case of a multiverse, of which there may be none. -/
  | caseBody : Part (List Stmt)

/-- The reader of a part.  What is inside the part is read with the whole budget. -/
def Part.reader : Part α → Reader α
  | .primary => Reader.primary Reader.expression Reader.comparison
  | .unary => Reader.unary Reader.expression Reader.comparison
  | .member => Reader.member Reader.expression Reader.comparison
  | .call => Reader.call Reader.expression Reader.comparison
  | .power => Reader.power Reader.expression Reader.comparison
  | .product => Reader.product Reader.expression Reader.comparison
  | .sum => Reader.sum Reader.expression Reader.comparison
  | .comparison => comparisonOver Reader.expression Reader.comparison
  | .logical => Reader.logical Reader.expression Reader.comparison
  | .expression => Reader.expression
  | .declaration constant => Reader.declaration constant
  | .branch => Reader.branch Reader.statement
  | .loopWhile => Reader.loopWhile Reader.statement
  | .team => Reader.team
  | .multiverse => Reader.multiverse Reader.statement
  | .loopRange => Reader.loopRange Reader.statement
  | .loopFor => Reader.loopFor Reader.statement
  | .assemble => Reader.assemble Reader.statement
  | .parameter => Reader.parameter
  | .statement => Reader.statement
  | .block construct => Reader.block Reader.statement construct
  | .caseBody => Reader.caseBody Reader.statement

/-- The tokens that end the statements of a case. -/
def caseStops : List Token.Kind := [.madness, .default, .closeBrace, .endOfFile]

/-- How many tokens the reader of a part takes at least if it succeeds, by the next token. -/
def Part.least (next : Token) : Part α → Nat
  | .caseBody => if next.kind ∈ caseStops then 0 else 1
  | _ => 1

/-! ### Passes -/

/-- One more item in a row. -/
def addItem (item : Reader α) (items : List α) : Reader (List α) := do
  return (← item) :: items

/-- One more item in a row with commas. -/
def addSeparated (item : Reader α) (items : List α) : Reader (List α) := do
  advance
  return (← item) :: items

/-- A value of a team, perhaps with a comma after it. -/
def teamValue : Reader Expr := do
  let value ← expression
  let _ ← skip? .comma
  return value

/-- One more index. -/
def addIndex (inner : Reader Expr) (object : Expr) : Reader Expr := do
  advance
  let index ← inner
  let _ ← expect .closeBracket "expected ']' after index"
  return .member object index

/-- One more list of arguments. -/
def addArguments (inner : Reader Expr) (callee : Expr) : Reader Expr := do
  advance
  return .call callee (← arguments inner)

/-- One more operand after one of the given operators. -/
def addArithmetic (operators : List Arithmetic) (operand : Reader Expr) (left : Expr) :
    Reader Expr := do
  let token ← peek
  advance
  let right ← operand
  return match arithmeticIn? operators token with
    | some operator => .arithmetic operator left right
    | none => left

/-- One more operand after an operator of the kind that a loop goes on with. -/
def addJoined {Operator : Type} (operator? : String → Option Operator)
    (join : Operator → Expr → Expr → Expr) (operand : Reader Expr) (left : Expr) :
    Reader Expr := do
  let token ← peek
  advance
  match operator? token.text with
  | some operator => return join operator left (← operand)
  | none => fail token.line (.unknownOperator token.text)

/-! ### Loops -/

/-- The loops of the readers, by what they hold from one pass to the next. -/
inductive Loop : Type → Type where
  | program : Loop (List Stmt)
  | block : Loop (List Stmt)
  | caseBody : Loop (List Stmt)
  | teamValues : Loop (List Expr)
  | cases : Loop (List Clause × List Stmt)
  | alternatives : Loop (List Clause × Option (List Stmt))
  | parameters : Loop (List String)
  | arguments : Loop (List Expr)
  | indexes : Loop Expr
  | calls : Loop Expr
  | powers : Loop Expr
  | products : Loop Expr
  | sums : Loop Expr
  | comparisons : Loop Expr
  | connectives : Loop Expr

namespace Loop

/-- Whether a loop makes another pass, by what it holds and the next token. -/
def goesOn : Loop α → α → Token → Bool
  | program, _, token => !([.endOfFile].contains token.kind)
  | block, _, token => !([.closeBrace, .endOfFile].contains token.kind)
  | caseBody, _, token => !caseStops.contains token.kind
  | teamValues, _, token => !([.closeBrace, .endOfFile].contains token.kind)
  | cases, _, token => token.kind != .closeBrace && token.kind != .endOfFile
  | alternatives, read, token => read.2.isNone && token.kind = .otherwise
  | parameters, _, token => token.kind = .comma
  | arguments, _, token => token.kind = .comma
  | indexes, _, token => token.kind = .openBracket
  | calls, _, token => token.kind = .openParen
  | powers, _, token => (arithmeticIn? [.power] token).isSome
  | products, _, token => (arithmeticIn? [.multiply, .divide, .modulo] token).isSome
  | sums, _, token => (arithmeticIn? [.add, .subtract] token).isSome
  | comparisons, _, token => token.kind = .comparison
  | connectives, _, token => token.kind = .logical

/-- One pass of a loop. -/
def pass : Loop α → α → Reader α
  | program | block | caseBody => addItem statement
  | teamValues => addItem teamValue
  | cases => caseOf statement
  | alternatives => alternative statement
  | parameters => addSeparated parameter
  | arguments => addSeparated expression
  | indexes => addIndex expression
  | calls => addArguments expression
  | powers => addArithmetic [.power] Part.call.reader
  | products => addArithmetic [.multiply, .divide, .modulo] Part.power.reader
  | sums => addArithmetic [.add, .subtract] Part.product.reader
  | comparisons => addJoined Comparison.ofSymbol? .comparison Part.sum.reader
  | connectives => addJoined Connective.ofSymbol? .connective Part.comparison.reader

/-- Makes passes as long as the loop goes on. -/
def run (loop : Loop α) (start : α) : Reader α := foldWhile loop.goesOn loop.pass start

end Loop

/-- That the readers are made of their loops. -/
structure MadeOfLoops : Prop where
  program : Reader.program = List.reverse <$> Loop.program.run []
  block : ∀ construct, (Part.block construct).reader = (do
    let _ ← expect .openBrace ("expected '\x7b' before '" ++ construct ++ "' body")
    let body ← List.reverse <$> Loop.block.run []
    let _ ← expect .closeBrace ("expected '\x7d' after '" ++ construct ++ "' body")
    return body)
  caseBody : Part.caseBody.reader = List.reverse <$> Loop.caseBody.run []
  teamValues : Reader.teamValues = List.reverse <$> Loop.teamValues.run []
  multiverse : Part.multiverse.reader = (do
    advance
    let _ ← expect .openParen "expected '(' after 'multiverse'"
    let discriminant ← expression
    let _ ← expect .closeParen "expected ')' after 'multiverse' expression"
    let _ ← expect .openBrace "expected '\x7b' before 'multiverse' body"
    let cases ← Loop.cases.run ([], [])
    let _ ← expect .closeBrace "expected '\x7d' after 'multiverse' body"
    return .multiverse discriminant cases.1.reverse cases.2)
  branch : Part.branch.reader = (do
    let first ← guarded statement "ifWorthy"
    let rest ← Loop.alternatives.run ([], none)
    return .branch first.test first.body rest.1.reverse rest.2)
  parameters : separated parameter = (do
    let first ← parameter
    List.reverse <$> Loop.parameters.run [first])
  arguments : separated expression = (do
    let first ← expression
    List.reverse <$> Loop.arguments.run [first])
  member : Part.member.reader = Part.unary.reader >>= Loop.indexes.run
  call : Part.call.reader = Part.member.reader >>= Loop.calls.run
  power : Part.power.reader = Part.call.reader >>= Loop.powers.run
  product : Part.product.reader = Part.power.reader >>= Loop.products.run
  sum : Part.sum.reader = Part.product.reader >>= Loop.sums.run
  comparison : Part.comparison.reader = Part.sum.reader >>= Loop.comparisons.run
  logical : Part.logical.reader = Part.comparison.reader >>= Loop.connectives.run

theorem madeOfLoops : MadeOfLoops where
  program := rfl
  block _ := rfl
  caseBody := rfl
  teamValues := rfl
  multiverse := rfl
  branch := rfl
  parameters := rfl
  arguments := rfl
  member := rfl
  call := rfl
  power := rfl
  product := rfl
  sum := rfl
  comparison := rfl
  logical := rfl

end Avenger.Reader
