import Avenger.Reader.Expression

/-!
# Reading statements

Each reader of this module reads one kind of statement, of which the first token is next.
Those with statements inside get the reader for them as an argument; `statementWithin`
closes the circle, as far as the budget goes.
-/

namespace Avenger.Reader

/-- Statements between braces. -/
def block (nested : Reader Stmt) (construct : String) : Reader (List Stmt) := do
  let _ ← expect .openBrace ("expected '\x7b' before '" ++ construct ++ "' body")
  let body ← itemsUntil [.closeBrace, .endOfFile] nested
  let _ ← expect .closeBrace ("expected '\x7d' after '" ++ construct ++ "' body")
  return body

/-- The semicolon that ends a statement. -/
def semicolon (expectation : String) : Reader Unit := do
  let _ ← expect .semicolon expectation
  return ()

/-- A declaration of a variable or, after `newEternal`, of a constant, which needs a
value. -/
def declaration (constant : Bool) : Reader Action := do
  advance
  let name ← expect .identifier "expected identifier name in declaration"
  let token ← peek
  if token.kind = .semicolon then
    if constant then fail token.line (.uninitializedConstant name.text)
    else
      advance
      return .declare name.text false none
  else
    let _ ← expect .equals ("expected assignment to identifier " ++ name.text)
    let value ← expression
    semicolon "expected ';' after declaration"
    return .declare name.text constant (some value)

/-- A condition in parentheses, after the word of the construct that it belongs to. -/
def condition (construct : String) : Reader Expr := do
  advance
  let _ ← expect .openParen ("expected '(' after '" ++ construct ++ "'")
  let test ← expression
  let _ ← expect .closeParen ("expected ')' after '" ++ construct ++ "' condition")
  return test

/-- A condition and the body that it decides about. -/
def guarded (nested : Reader Stmt) (construct : String) : Reader Clause := do
  let test ← condition construct
  return .mk test (← block nested construct)

/-- What comes after the body of an `ifWorthy`: clauses that are tried in turn, held in
reverse, and perhaps a last body. -/
def alternative (nested : Reader Stmt) (read : List Clause × Option (List Stmt)) :
    Reader (List Clause × Option (List Stmt)) := do
  advance
  let token ← peek
  if token.kind = .ifWorthy then return ((← guarded nested "ifWorthy") :: read.1, none)
  else return (read.1, some (← block nested "otherwise"))

/-- An `ifWorthy` with everything that belongs to it. -/
def branch (nested : Reader Stmt) : Reader Action := do
  let first ← guarded nested "ifWorthy"
  let rest ← foldWhile (fun read token => read.2.isNone && token.kind = .otherwise)
    (alternative nested) ([], none)
  return .branch first.test first.body rest.1.reverse rest.2

/-- A `fightUntil`. -/
def loopWhile (nested : Reader Stmt) : Reader Action := do
  let clause ← guarded nested "fightUntil"
  return .loopWhile clause.test clause.body

/-- The values of a team, with or without commas after them. -/
def teamValues : Reader (List Expr) :=
  itemsUntil [.closeBrace, .endOfFile] do
    let value ← expression
    let _ ← skip? .comma
    return value

/-- The declaration of a team. -/
def team : Reader Action := do
  advance
  let name ← expect .identifier "expected 'team' name"
  let _ ← expect .openBracket ("expected '[' after identifier '" ++ name.text ++ "'")
  let size ← expression
  let _ ← expect .closeBracket "expected ']' after 'team' size"
  let _ ← expect .equals "expected '=' for 'team' assignment"
  let _ ← expect .openBrace "expected '\x7b' before 'team' values"
  let values ← teamValues
  let _ ← expect .closeBrace "expected '\x7d' after 'team' values"
  semicolon "expected ';' after 'team' declaration"
  return .team name.text size values

/-- The statements of a case, up to the next one. -/
def caseBody (nested : Reader Stmt) : Reader (List Stmt) :=
  itemsUntil [.madness, .default, .closeBrace, .endOfFile] nested

/-- One case of a multiverse.  The cases read before are held in reverse, and a later
default replaces an earlier one. -/
def caseOf (nested : Reader Stmt) (read : List Clause × List Stmt) :
    Reader (List Clause × List Stmt) := do
  let token ← peek
  match token.kind with
  | .madness =>
      advance
      let test ← expression
      let _ ← expect .colon "expected ':' after 'madness' expression"
      return (.mk test (← caseBody nested) :: read.1, read.2)
  | .default =>
      advance
      let _ ← expect .colon "expected ':' after 'default'"
      return (read.1, ← caseBody nested)
  | _ => fail token.line .strayInMultiverse

/-- A multiverse with its cases. -/
def multiverse (nested : Reader Stmt) : Reader Action := do
  advance
  let _ ← expect .openParen "expected '(' after 'multiverse'"
  let discriminant ← expression
  let _ ← expect .closeParen "expected ')' after 'multiverse' expression"
  let _ ← expect .openBrace "expected '\x7b' before 'multiverse' body"
  let cases ← foldWhile
    (fun _ token => token.kind != .closeBrace && token.kind != .endOfFile)
    (caseOf nested) ([], [])
  let _ ← expect .closeBrace "expected '\x7d' after 'multiverse' body"
  return .multiverse discriminant cases.1.reverse cases.2

/-- The step of a `wakandaForEach`, if it names one. -/
def loopStep : Reader (Option Expr) := do
  if ← skip? .stepWord then return some (← expression)
  else return none

/-- A `wakandaForEach`. -/
def loopRange (nested : Reader Stmt) : Reader Action := do
  advance
  let _ ← expect .openParen "expected '(' after 'wakandaForEach'"
  let iterator ← expect .identifier
    "expected identifier as an iterator in 'wakandaForEach' loop"
  let _ ← expect .inWord "expected 'in' keyword after iterator"
  let start ← expression
  let _ ← expect .toWord "expected 'to' keyword after start expression"
  let stop ← expression
  let step ← loopStep
  let _ ← expect .closeParen "expected ')' after 'wakandaForEach' header"
  return .loopRange iterator.text start stop step (← block nested "wakandaForEach")

/-- A `wakandaFor`, whose header statement brings its own semicolon. -/
def loopFor (nested : Reader Stmt) : Reader Action := do
  advance
  let _ ← expect .openParen "expected '(' after 'wakandaFor'"
  let header ← nested
  let test ← expression
  semicolon "expected ';' after condition in 'wakandaFor'"
  let modification ← expression
  let _ ← expect .closeParen "expected ')' after 'wakandaFor' header"
  return .loopFor header test modification (← block nested "wakandaFor")

/-- The name of a parameter. -/
def parameter : Reader String := do
  return (← expect .identifier "expected parameter name").text

/-- The definition of a function. -/
def assemble (nested : Reader Stmt) : Reader Action := do
  advance
  let name ← expect .identifier "expected function name"
  let _ ← expect .openParen "expected '(' after function name"
  let token ← peek
  let parameters ← if token.kind = .closeParen then pure [] else separated parameter
  let _ ← expect .closeParen "expected ')' after function parameters"
  return .assemble name.text parameters (← block nested "assemble")

/-- A `snap` with or without a value. -/
def snap : Reader Action := do
  advance
  let token ← peek
  let value ← if token.kind = .semicolon then pure none else some <$> expression
  semicolon "expected ';' after 'snap'"
  return .snap value

/-- An `endGame`. -/
def endGame : Reader Action := do
  advance
  semicolon "expected ';' after 'endGame'"
  return .endGame

/-- An expression as a statement. -/
def expressionAction : Reader Action := do
  let value ← expression
  semicolon "expected ';' after expression"
  return .expression value

/-- What a statement does, of which `first` is the first token. -/
def action (nested : Reader Stmt) (first : Token) : Reader Action :=
  match first.kind with
  | .newAvenger => declaration false
  | .newEternal => declaration true
  | .ifWorthy => branch nested
  | .fightUntil => loopWhile nested
  | .endGame => endGame
  | .team => team
  | .multiverse => multiverse nested
  | .wakandaForEach => loopRange nested
  | .wakandaFor => loopFor nested
  | .assemble => assemble nested
  | .snap => snap
  | .reserved => fail first.line (.reservedWord first.text)
  | _ => expressionAction

/-- A statement with others inside it at most `budget` deep. -/
def statementWithin : Nat → Reader Stmt
  | 0 => outOfBudget
  | budget + 1 => fun setting tokens =>
      let first := tokens.headD setting.finish
      match action (statementWithin budget) first setting tokens with
      | .ok (action, rest) => .ok (.mk first.line action, rest)
      | .error stop => .error stop

/-- A statement. -/
def statement : Reader Stmt :=
  fun setting tokens => statementWithin setting.budget setting tokens

end Avenger.Reader
