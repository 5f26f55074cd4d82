/-!
# Programs

The abstract form of a script: expressions, and statements with the line that each of them
starts on.
-/

namespace Avenger

/-- The operators of arithmetic. -/
inductive Arithmetic where
  | add
  | subtract
  | multiply
  | divide
  | modulo
  | power
  deriving DecidableEq

/-- The operators that compare. -/
inductive Comparison where
  | equal
  | unequal
  | less
  | lessOrEqual
  | greater
  | greaterOrEqual
  deriving DecidableEq

/-- The operators that join truth values. -/
inductive Connective where
  | and
  | or
  deriving DecidableEq

namespace Arithmetic

def symbol : Arithmetic → String
  | add => "+"
  | subtract => "-"
  | multiply => "*"
  | divide => "/"
  | modulo => "%"
  | power => "^"

def all : List Arithmetic := [add, subtract, multiply, divide, modulo, power]

/-- The operator with the given symbol. -/
def ofSymbol? (text : String) : Option Arithmetic := all.find? (·.symbol == text)

/-- No two operators have the same symbol. -/
theorem ofSymbol?_symbol (operator : Arithmetic) :
    ofSymbol? operator.symbol = some operator := by
  cases operator <;> decide

end Arithmetic

namespace Comparison

def symbol : Comparison → String
  | equal => "=="
  | unequal => "!="
  | less => "<"
  | lessOrEqual => "<="
  | greater => ">"
  | greaterOrEqual => ">="

def all : List Comparison :=
  [equal, unequal, less, lessOrEqual, greater, greaterOrEqual]

/-- The operator with the given symbol. -/
def ofSymbol? (text : String) : Option Comparison := all.find? (·.symbol == text)

/-- No two operators have the same symbol. -/
theorem ofSymbol?_symbol (operator : Comparison) :
    ofSymbol? operator.symbol = some operator := by
  cases operator <;> decide

end Comparison

namespace Connective

def symbol : Connective → String
  | and => "&&"
  | or => "||"

/-- The word that a connective can also be written as. -/
def word : Connective → String
  | and => "and"
  | or => "or"

def all : List Connective := [and, or]

/-- The connective with the given symbol or word. -/
def ofSymbol? (text : String) : Option Connective :=
  all.find? fun connective => connective.symbol == text || connective.word == text

/-- No two connectives have the same symbol. -/
theorem ofSymbol?_symbol (connective : Connective) :
    ofSymbol? connective.symbol = some connective := by
  cases connective <;> decide

/-- No two connectives have the same word. -/
theorem ofSymbol?_word (connective : Connective) :
    ofSymbol? connective.word = some connective := by
  cases connective <;> decide

end Connective

/-- Expressions. -/
inductive Expr where
  | number (value : Float)
  | text (value : String)
  | null
  | name (name : String)
  | arithmetic (operator : Arithmetic) (left right : Expr)
  | comparison (operator : Comparison) (left right : Expr)
  | connective (operator : Connective) (left right : Expr)
  | not (operand : Expr)
  | minus (operand : Expr)
  | assign (target value : Expr)
  /-- An assignment that applies an operator to the old value: `target += value`. -/
  | update (operator : Arithmetic) (target value : Expr)
  /-- An element of a team or a character of a string: `object[index]`. -/
  | member (object index : Expr)
  | call (callee : Expr) (arguments : List Expr)

mutual

/-- An action with the line that it starts on. -/
inductive Stmt where
  | mk (line : Nat) (action : Action)

/-- What a statement does. -/
inductive Action where
  | expression (value : Expr)
  /-- `newAvenger name = value;`, or `newEternal` for a constant. -/
  | declare (name : String) (constant : Bool) (value : Option Expr)
  /-- `team name[size] = { values };` -/
  | team (name : String) (size : Expr) (values : List Expr)
  /-- `ifWorthy (condition) { body }` with any number of `otherwise ifWorthy` after it and
  perhaps an `otherwise` of its own. -/
  | branch (condition : Expr) (body : List Stmt) (alternatives : List Clause)
      (otherwise : Option (List Stmt))
  /-- `fightUntil (condition) { body }` -/
  | loopWhile (condition : Expr) (body : List Stmt)
  /-- `wakandaForEach (iterator in start to stop step step) { body }` -/
  | loopRange (iterator : String) (start stop : Expr) (step : Option Expr) (body : List Stmt)
  /-- `wakandaFor (header condition; modification) { body }` -/
  | loopFor (header : Stmt) (condition modification : Expr) (body : List Stmt)
  /-- `multiverse (discriminant) { madness test: body ... default: body }` -/
  | multiverse (discriminant : Expr) (cases : List Clause) (fallback : List Stmt)
  /-- `assemble name(parameters) { body }` -/
  | assemble (name : String) (parameters : List String) (body : List Stmt)
  /-- `snap value;` -/
  | snap (value : Option Expr)
  | endGame

/-- An expression that decides whether a body runs. -/
inductive Clause where
  | mk (test : Expr) (body : List Stmt)

end

namespace Stmt

/-- The line that a statement starts on. -/
def line : Stmt → Nat
  | mk line _ => line

/-- What a statement does. -/
def action : Stmt → Action
  | mk _ action => action

end Stmt

namespace Clause

def test : Clause → Expr
  | mk test _ => test

def body : Clause → List Stmt
  | mk _ body => body

end Clause

/-- A program is the list of its statements. -/
abbrev Program := List Stmt

end Avenger
