import Avenger.Proofs.Change

/-!
# A counted evaluator

The evaluator of this module knows nothing of why runs end.  Every step into a part of an
expression or a statement, every turn of a loop and every call takes one unit from a budget,
and a run whose budget is used up stops without a result.  Loops count their turns and are
guarded turn by turn; the limit is read anew each time.
-/

namespace Avenger

namespace Eval

/-- Runs what is there; without anything the value is null. -/
def optional (run : Expr → Eval Value) : Option Expr → Eval Value
  | some expression => run expression
  | none => return .null

/-- Tests the value of a condition. -/
def truth (construct : Construct) (run : Eval Value) : Eval Bool := do
  let value ← run
  match value.truth? with
  | some truth => return truth
  | none => fail (.conditionKind construct value.kind)

/-- Tests the value of a part of the header of a range loop. -/
def rangePart (part : RangePart) (run : Eval Value) : Eval Float := do
  match ← run with
  | .number value => return value
  | value => fail (.misuse (.rangePart part value.kind))

/-- The step in the header of a range loop; without one it is one. -/
def rangeStep (run : Expr → Eval Value) : Option Expr → Eval Float
  | some step => rangePart .step (run step)
  | none => return 1

/-- The range with the given parts. -/
def range (start stop step : Eval Float) : Eval Range := do
  let start ← start
  let stop ← stop
  let step ← step
  if 0 < step then return { start, stop, step } else fail (.stepInvalid step)

/-- Fails if a loop in a scope may not begin its turn of the given number. -/
def guardTurn (scope : ScopeId) (turn : Nat) : Eval Unit := do
  ofExcept (← readHeap (·.guardTurn scope turn))

end Eval

/-- A turn of a loop: its body and, unless that leaves the loop, its modification. -/
def Loop.turn (body : Eval Flow) (modification : Eval Value) : Eval Flow := do
  match ← body with
  | .normal value =>
      let _ ← modification
      return .normal value
  | flow => return flow

mutual

/-- Evaluates an expression within a budget. -/
def Expr.evalWithin : Nat → ScopeId → Expr → Eval Value
  | 0, _, _ => Eval.outOfBudget
  | budget + 1, scope, expression =>
      match expression with
      | .number value => return .number value
      | .text value => return .text value
      | .null => return .null
      | .name identifier => Eval.lookup scope identifier
      | .arithmetic operator left right => do
          let left ← Expr.evalWithin budget scope left
          let right ← Expr.evalWithin budget scope right
          let limits ← Eval.readHeap (·.limits scope)
          Eval.ofExcept (Value.arithmetic operator limits.iterations left right)
      | .comparison operator left right => do
          let left ← Expr.evalWithin budget scope left
          let right ← Expr.evalWithin budget scope right
          return Value.compare operator left right
      | .connective operator left right => do
          let left ← Expr.evalWithin budget scope left
          let right ← Expr.evalWithin budget scope right
          return Value.connect operator left right
      | .not operand => return (← Expr.evalWithin budget scope operand).not
      | .minus operand => do Eval.ofExcept (← Expr.evalWithin budget scope operand).minus
      | .assign target value =>
          match target with
          | .name identifier => do
              let value ← Expr.evalWithin budget scope value
              Eval.assign scope identifier value
          | .member object index => do
              let base ← Expr.evalWithin budget scope object
              let index ← Expr.evalWithin budget scope index
              let value ← Expr.evalWithin budget scope value
              match base, object with
              | .team id, _ => Eval.writeElement id index value
              | .text content, .name identifier =>
                  Eval.writeCharacter scope identifier content index value
              | .text _, _ => Eval.fail .notAssignable
              | base, _ => Eval.fail (.misuse (.indexed base.kind))
          | _ => Eval.fail .notAssignable
      | .update operator target value =>
          match target with
          | .name identifier => do
              let current ← Eval.lookup scope identifier
              let value ← Expr.evalWithin budget scope value
              match current, value with
              | .number left, .number right =>
                  Eval.assign scope identifier (.number (operator.onNumbers left right))
              | current, value => Eval.fail (.updateKinds operator current.kind value.kind)
          | _ => Eval.fail .notAssignable
      | .member object index => do
          let object ← Expr.evalWithin budget scope object
          let index ← Expr.evalWithin budget scope index
          Eval.ofExcept (← Eval.readHeap (·.member object index))
      | .call callee arguments => do
          let callee ← Expr.evalWithin budget scope callee
          let arguments ← Expr.evalListWithin budget scope arguments
          callee.call (invokeCounted budget) arguments scope

/-- Evaluates expressions from left to right within a budget. -/
def Expr.evalListWithin : Nat → ScopeId → List Expr → Eval (List Value)
  | 0, _, _ => Eval.outOfBudget
  | _ + 1, _, [] => return []
  | budget + 1, scope, expression :: rest => do
      let value ← Expr.evalWithin budget scope expression
      let values ← Expr.evalListWithin budget scope rest
      return value :: values

/-- Runs a statement within a budget. -/
def Stmt.execWithin : Nat → Stmt → ScopeId → Eval Flow
  | 0, _, _ => Eval.outOfBudget
  | budget + 1, statement, scope =>
      match statement with
      | .mk line action => Eval.atLine line (Action.execWithin budget action scope)

/-- Does what a statement does within a budget. -/
def Action.execWithin : Nat → Action → ScopeId → Eval Flow
  | 0, _, _ => Eval.outOfBudget
  | budget + 1, action, scope =>
      match action with
      | .expression value => return .normal (← Expr.evalWithin budget scope value)
      | .declare name constant value => do
          let value ← Eval.optional (Expr.evalWithin budget scope) value
          return .normal (← Eval.declare scope name value constant)
      | .team name size values => do
          let size ← Eval.ofExcept
            (Team.size name values.length (← Expr.evalWithin budget scope size))
          let values ← Expr.evalListWithin budget scope values
          Eval.reserve scope name
          let team ← Eval.newTeam (Team.make name size values)
          return .normal (← Eval.declare scope name team false)
      | .branch condition body alternatives otherwise => do
          if ← Eval.truth .ifWorthy (Expr.evalWithin budget scope condition) then
            Eval.inChild scope fun inner => Stmt.execListWithin budget body inner .null
          else Clause.execFirstWithin budget alternatives otherwise scope
      | .loopWhile condition body =>
          Loop.conditionalWithin budget .fightUntil condition body none scope 1
      | .loopRange iterator start stop step body => do
          let range ← Eval.range
            (Eval.rangePart .start (Expr.evalWithin budget scope start))
            (Eval.rangePart .stop (Expr.evalWithin budget scope stop))
            (Eval.rangeStep (Expr.evalWithin budget scope) step)
          Loop.countedWithin budget iterator range body scope 1 range.start
      | .loopFor header condition modification body =>
          Eval.inChild scope fun outer => do
            match ← Stmt.execWithin budget header outer with
            | .normal _ =>
                Loop.conditionalWithin budget .wakandaFor condition body
                  (some modification) outer 1
            | flow => return flow
      | .multiverse discriminant cases fallback => do
          let value ← Expr.evalWithin budget scope discriminant
          if value.kind ≠ .number ∧ value.kind ≠ .text then
            Eval.fail (.discriminantKind value.kind)
          else
            let flow ← Eval.inChild scope fun inner =>
              Clause.execMatchingWithin budget value cases fallback inner
            match flow with
            | .endGame => return .normal .null
            | flow => return flow
      | .assemble name parameters body => do
          Eval.reserve scope name
          let routine ← Eval.newRoutine { name, parameters, body, closure := scope }
          return .normal (← Eval.declare scope name routine false)
      | .snap value => do
          let value ← Eval.optional (Expr.evalWithin budget scope) value
          return .snap value
      | .endGame => return .endGame

/-- Runs statements in turn within a budget. -/
def Stmt.execListWithin : Nat → List Stmt → ScopeId → Value → Eval Flow
  | 0, _, _, _ => Eval.outOfBudget
  | _ + 1, [], _, last => return .normal last
  | budget + 1, statement :: rest, scope, _ => do
      match ← Stmt.execWithin budget statement scope with
      | .normal value => Stmt.execListWithin budget rest scope value
      | flow => return flow

/-- Runs the body of the first clause whose condition is true within a budget. -/
def Clause.execFirstWithin :
    Nat → List Clause → Option (List Stmt) → ScopeId → Eval Flow
  | 0, _, _, _ => Eval.outOfBudget
  | _ + 1, [], none, _ => return .normal .null
  | budget + 1, [], some body, scope =>
      Eval.inChild scope fun inner => Stmt.execListWithin budget body inner .null
  | budget + 1, .mk condition body :: rest, otherwise, scope => do
      if ← Eval.truth .ifWorthy (Expr.evalWithin budget scope condition) then
        Eval.inChild scope fun inner => Stmt.execListWithin budget body inner .null
      else Clause.execFirstWithin budget rest otherwise scope

/-- Runs the body of the first clause whose value is the given one within a budget. -/
def Clause.execMatchingWithin :
    Nat → Value → List Clause → List Stmt → ScopeId → Eval Flow
  | 0, _, _, _, _ => Eval.outOfBudget
  | budget + 1, _, [], fallback, scope => Stmt.execListWithin budget fallback scope .null
  | budget + 1, value, .mk test body :: rest, fallback, scope => do
      let candidate ← Expr.evalWithin budget scope test
      if candidate.kind ≠ value.kind then
        Eval.fail (.caseKind value.kind candidate.kind)
      else if candidate.same value then Stmt.execListWithin budget body scope .null
      else Clause.execMatchingWithin budget value rest fallback scope

/-- Makes the turns of a loop with a condition, from the given turn on.  A modification
follows each turn. -/
def Loop.conditionalWithin :
    Nat → Construct → Expr → List Stmt → Option Expr → ScopeId → Nat → Eval Flow
  | 0, _, _, _, _, _, _ => Eval.outOfBudget
  | budget + 1, construct, condition, body, modification, scope, turn => do
      if ← Eval.truth construct (Expr.evalWithin budget scope condition) then
        Eval.guardTurn scope turn
        match ← Loop.turn
            (Eval.inChild scope fun inner => Stmt.execListWithin budget body inner .null)
            (Eval.optional (Expr.evalWithin budget scope) modification) with
        | .normal _ =>
            Loop.conditionalWithin budget construct condition body modification scope
              (turn + 1)
        | .endGame => return .normal .null
        | .snap value => return .snap value
      else return .normal .null

/-- Makes the turns of a range loop, from the given turn and count on. -/
def Loop.countedWithin :
    Nat → String → Range → List Stmt → ScopeId → Nat → Float → Eval Flow
  | 0, _, _, _, _, _, _ => Eval.outOfBudget
  | budget + 1, iterator, range, body, scope, turn, count => do
      if range.contains count then
        Eval.guardTurn scope turn
        match ← Eval.inScope
            (fun heap => (heap.childOf scope).bind ⟨iterator, .number count, false⟩)
            fun inner => Stmt.execListWithin budget body inner .null with
        | .normal _ =>
            Loop.countedWithin budget iterator range body scope (turn + 1)
              (range.next count)
        | .endGame => return .normal .null
        | .snap value => return .snap value
      else return .normal .null

/-- Calls a function within a budget. -/
def invokeCounted : Nat → Invoke
  | 0, _, _, _ => Eval.outOfBudget
  | budget + 1, id, arguments, caller =>
      Eval.callRoutine
        (fun routine inner => Stmt.execListWithin budget routine.body inner .null)
        id arguments caller

end

end Avenger
