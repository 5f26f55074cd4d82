import Avenger.Proofs.Termination.Counted

/-!
# What a run may cost

The weight of a piece of code bounds the units that a run of it takes from a budget, calls
of functions apart.  A call costs at most the weight of the heaviest body and what the calls
inside of it cost.
-/

namespace Avenger

mutual

/-- The weight of an expression. -/
def Expr.weight : Expr → Nat
  | .number _ | .text _ | .null | .name _ => 1
  | .arithmetic _ left right | .comparison _ left right | .connective _ left right =>
      left.weight + right.weight + 1
  | .not operand | .minus operand => operand.weight + 1
  | .assign target value | .update _ target value => target.weight + value.weight + 1
  | .member object index => object.weight + index.weight + 1
  | .call callee arguments => callee.weight + Expr.listWeight arguments + 2

/-- List counterpart of `Expr.weight`. -/
def Expr.listWeight : List Expr → Nat
  | [] => 1
  | expression :: rest => expression.weight + Expr.listWeight rest + 1

end

/-- The weight of an optional expression. -/
def Expr.optionWeight : Option Expr → Nat
  | none => 0
  | some expression => expression.weight

mutual

/-- The weight of a statement, when a loop makes at most the given number of turns. -/
def Stmt.weight (turns : Nat) : Stmt → Nat
  | .mk _ action => action.weight turns + 1

/-- The weight of what a statement does. -/
def Action.weight (turns : Nat) : Action → Nat
  | .expression value => value.weight + 1
  | .declare _ _ value => Expr.optionWeight value + 1
  | .team _ size values => size.weight + Expr.listWeight values + 1
  | .branch condition body alternatives otherwise =>
      condition.weight + Stmt.listWeight turns body + Clause.listWeight turns alternatives +
        Stmt.optionWeight turns otherwise + 2
  | .loopWhile condition body => condition.weight + Stmt.listWeight turns body + turns + 2
  | .loopRange _ start stop step body =>
      start.weight + stop.weight + Expr.optionWeight step + Stmt.listWeight turns body +
        turns + 2
  | .loopFor header condition modification body =>
      header.weight turns + condition.weight + modification.weight +
        Stmt.listWeight turns body + turns + 2
  | .multiverse discriminant cases fallback =>
      discriminant.weight + Clause.listWeight turns cases +
        Stmt.listWeight turns fallback + 2
  | .assemble _ _ body => Stmt.listWeight turns body + 1
  | .snap value => Expr.optionWeight value + 1
  | .endGame => 1

/-- List counterpart of `Stmt.weight`. -/
def Stmt.listWeight (turns : Nat) : List Stmt → Nat
  | [] => 1
  | statement :: rest => statement.weight turns + Stmt.listWeight turns rest + 1

/-- The weight of optional statements. -/
def Stmt.optionWeight (turns : Nat) : Option (List Stmt) → Nat
  | none => 0
  | some statements => Stmt.listWeight turns statements

/-- The weight of clauses. -/
def Clause.listWeight (turns : Nat) : List Clause → Nat
  | [] => 0
  | .mk test body :: rest =>
      test.weight + Stmt.listWeight turns body + Clause.listWeight turns rest + 1

end

namespace Heap

/-- The greatest number of turns that any scope allows a loop. -/
def greatestTurns (heap : Heap) : Nat :=
  heap.scopes.foldl (fun greatest scope => max greatest scope.limits.iterations) 0

/-- The weight of the heaviest body of a function. -/
def greatestWeight (heap : Heap) (turns : Nat) : Nat :=
  heap.routines.foldl
    (fun greatest routine => max greatest (Stmt.listWeight turns routine.body)) 0

end Heap

/-- Numbers that bound what a run may cost. -/
structure Bounds where
  /-- The turns of one loop. -/
  turns : Nat
  /-- The calls that are active. -/
  calls : Nat
  /-- The weight of one body. -/
  weight : Nat

namespace Bounds

/-- The bounds of a heap in which a program is run. -/
def ofHeap (program : Program) (heap : Heap) : Bounds :=
  { turns := heap.greatestTurns
    calls := heap.greatestCallDepth
    weight := max (Stmt.listWeight heap.greatestTurns program)
      (heap.greatestWeight heap.greatestTurns) }

/-- What calls may cost when at most `left` more of them may be active at a time. -/
def callCost (bounds : Bounds) (left : Nat) : Nat := left * (bounds.weight + 1)

/-- What a program may cost. -/
def budget (bounds : Bounds) : Nat := bounds.weight + bounds.callCost bounds.calls + 1

end Bounds

/-- A budget of units that a program run in a heap does not use up. -/
def Program.budget (program : Program) (heap : Heap) : Nat :=
  (Bounds.ofHeap program heap).budget

/-- Runs a program in a scope within a budget. -/
def Program.evalWithin (budget : Nat) (program : Program) (scope : ScopeId) :
    Eval Value := do
  match ← Stmt.execListWithin budget program scope .null with
  | .normal value => return value
  | .snap value => return value
  | .endGame => return .stopped

/-- Calls a value from a scope within a budget. -/
def Value.callWithin (budget : Nat) (callee : Value) (arguments : List Value)
    (scope : ScopeId) : Eval Value :=
  callee.call (invokeCounted budget) arguments scope

end Avenger
