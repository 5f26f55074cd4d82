import Avenger.Eval.Element
import Avenger.Eval.Loop
import Avenger.Native.Apply
import Avenger.Value.Operator

/-!
# Running programs

Expressions and statements run by recursion on their form.  What a call of a function does
is an argument of that recursion; `invokeWithin` closes the circle and spends one unit of
budget on each call.  A call is refused when as many calls are active as the limit of the
calling scope allows, so a budget of one more than the greatest of these limits is never
used up.
-/

namespace Avenger

/-- What a call does: it runs a function on arguments, for a calling scope. -/
abbrev Invoke : Type := RoutineId → List Value → ScopeId → Eval Value

/-- Calls a value. -/
def Value.call (invoke : Invoke) (callee : Value) (arguments : List Value)
    (scope : ScopeId) : Eval Value :=
  match callee with
  | .native function _ => function.apply arguments
  | .routine id => invoke id arguments scope
  | value => Eval.fail (.notCallable value.kind)

mutual

/-- Evaluates an expression in a scope. -/
def Expr.eval (invoke : Invoke) (scope : ScopeId) : Expr → Eval Value
  | .number value => return .number value
  | .text value => return .text value
  | .null => return .null
  | .name identifier => Eval.lookup scope identifier
  | .arithmetic operator left right => do
      let left ← left.eval invoke scope
      let right ← right.eval invoke scope
      let limits ← Eval.readHeap (·.limits scope)
      Eval.ofExcept (Value.arithmetic operator limits.iterations left right)
  | .comparison operator left right => do
      let left ← left.eval invoke scope
      let right ← right.eval invoke scope
      return Value.compare operator left right
  | .connective operator left right => do
      let left ← left.eval invoke scope
      let right ← right.eval invoke scope
      return Value.connect operator left right
  | .not operand => return (← operand.eval invoke scope).not
  | .minus operand => do Eval.ofExcept (← operand.eval invoke scope).minus
  | .assign target value =>
      match target with
      | .name identifier => do
          let value ← value.eval invoke scope
          Eval.assign scope identifier value
      | .member object index => do
          let base ← object.eval invoke scope
          let index ← index.eval invoke scope
          let value ← value.eval invoke scope
          match base, object with
          | .team id, _ => Eval.writeElement id index value
          | .text content, .name identifier =>
              Eval.writeCharacter scope identifier content index value
          | .text _, _ => Eval.fail .notAssignable
          | base, _ => Eval.fail (.misuse (.indexed base.kind))
      | _ => Eval.fail .notAssignable
  | .update operator target value =>
      match target with
      | .name identifier => do
          let current ← Eval.lookup scope identifier
          let value ← value.eval invoke scope
          match current, value with
          | .number left, .number right =>
              Eval.assign scope identifier (.number (operator.onNumbers left right))
          | current, value => Eval.fail (.updateKinds operator current.kind value.kind)
      | _ => Eval.fail .notAssignable
  | .member object index => do
      let object ← object.eval invoke scope
      let index ← index.eval invoke scope
      Eval.ofExcept (← Eval.readHeap (·.member object index))
  | .call callee arguments => do
      let callee ← callee.eval invoke scope
      let arguments ← Expr.evalList invoke scope arguments
      callee.call invoke arguments scope

/-- Evaluates expressions from left to right. -/
def Expr.evalList (invoke : Invoke) (scope : ScopeId) : List Expr → Eval (List Value)
  | [] => return []
  | expression :: rest => do
      let value ← expression.eval invoke scope
      let values ← Expr.evalList invoke scope rest
      return value :: values

end

/-- Evaluates an optional expression; without one the value is null. -/
def Expr.evalOption (invoke : Invoke) (scope : ScopeId) : Option Expr → Eval Value
  | some expression => expression.eval invoke scope
  | none => return .null

/-- Evaluates the condition of a construct. -/
def Expr.test (invoke : Invoke) (construct : Construct) (scope : ScopeId)
    (condition : Expr) : Eval Bool := do
  let value ← condition.eval invoke scope
  match value.truth? with
  | some truth => return truth
  | none => Eval.fail (.conditionKind construct value.kind)

/-- Evaluates a number in the header of a range loop. -/
def Expr.rangePart (invoke : Invoke) (part : RangePart) (scope : ScopeId)
    (expression : Expr) : Eval Float := do
  match ← expression.eval invoke scope with
  | .number value => return value
  | value => Eval.fail (.misuse (.rangePart part value.kind))

/-- Evaluates the numbers in the header of a range loop; without a step it is one. -/
def Expr.range (invoke : Invoke) (scope : ScopeId) (start stop : Expr)
    (step : Option Expr) : Eval Range := do
  let start ← start.rangePart invoke .start scope
  let stop ← stop.rangePart invoke .stop scope
  let step ←
    match step with
    | some step => step.rangePart invoke .step scope
    | none => pure 1
  if 0 < step then return { start, stop, step } else Eval.fail (.stepInvalid step)

mutual

/-- Runs a statement in a scope. -/
def Stmt.exec (invoke : Invoke) : Stmt → ScopeId → Eval Flow
  | .mk line action, scope => Eval.atLine line (Action.exec invoke action scope)

/-- Does what a statement does. -/
def Action.exec (invoke : Invoke) : Action → ScopeId → Eval Flow
  | .expression value, scope => return .normal (← value.eval invoke scope)
  | .declare name constant value, scope => do
      let value ← Expr.evalOption invoke scope value
      return .normal (← Eval.declare scope name value constant)
  | .team name size values, scope => do
      let size ← Eval.ofExcept
        (Team.size name values.length (← size.eval invoke scope))
      let values ← Expr.evalList invoke scope values
      Eval.reserve scope name
      let team ← Eval.newTeam (Team.make name size values)
      return .normal (← Eval.declare scope name team false)
  | .branch condition body alternatives otherwise, scope => do
      if ← condition.test invoke .ifWorthy scope then
        Eval.inChild scope fun inner => Stmt.execList invoke body inner .null
      else
        Clause.execFirst invoke alternatives scope
          (match otherwise with
          | some body => Eval.inChild scope fun inner => Stmt.execList invoke body inner .null
          | none => pure (.normal .null))
  | .loopWhile condition body, scope => do
      let limits ← Eval.readHeap (·.limits scope)
      Loop.conditional limits.iterations (condition.test invoke .fightUntil scope)
        (Eval.inChild scope fun inner => Stmt.execList invoke body inner .null)
        limits.iterations
  | .loopRange iterator start stop step body, scope => do
      let range ← Expr.range invoke scope start stop step
      let limits ← Eval.readHeap (·.limits scope)
      Loop.counted limits.iterations range
        (fun count =>
          Eval.inScope (fun heap => (heap.childOf scope).bind ⟨iterator, .number count, false⟩)
            fun inner => Stmt.execList invoke body inner .null)
        limits.iterations range.start
  | .loopFor header condition modification body, scope =>
      Eval.inChild scope fun outer => do
        match ← header.exec invoke outer with
        | .normal _ =>
            let limits ← Eval.readHeap (·.limits outer)
            Loop.conditional limits.iterations (condition.test invoke .wakandaFor outer)
              (do
                match ← Eval.inChild outer fun inner =>
                    Stmt.execList invoke body inner .null with
                | .normal value =>
                    let _ ← modification.eval invoke outer
                    return .normal value
                | flow => return flow)
              limits.iterations
        | flow => return flow
  | .multiverse discriminant cases fallback, scope => do
      let value ← discriminant.eval invoke scope
      if value.kind ≠ .number ∧ value.kind ≠ .text then
        Eval.fail (.discriminantKind value.kind)
      else
        let flow ← Eval.inChild scope fun inner =>
          Clause.execMatching invoke value cases inner
            (Stmt.execList invoke fallback inner .null)
        match flow with
        | .endGame => return .normal .null
        | flow => return flow
  | .assemble name parameters body, scope => do
      Eval.reserve scope name
      let routine ← Eval.newRoutine { name, parameters, body, closure := scope }
      return .normal (← Eval.declare scope name routine false)
  | .snap value, scope => return .snap (← Expr.evalOption invoke scope value)
  | .endGame, _ => return .endGame

/-- Runs statements in turn, up to the first that leaves the list.  The value is that of the
last statement, or `last` if there is none. -/
def Stmt.execList (invoke : Invoke) : List Stmt → ScopeId → Value → Eval Flow
  | [], _, last => return .normal last
  | statement :: rest, scope, _ => do
      match ← statement.exec invoke scope with
      | .normal value => Stmt.execList invoke rest scope value
      | flow => return flow

/-- Runs the body of the first clause whose condition is true, and otherwise the rest. -/
def Clause.execFirst (invoke : Invoke) : List Clause → ScopeId → Eval Flow → Eval Flow
  | [], _, otherwise => otherwise
  | .mk condition body :: rest, scope, otherwise => do
      if ← condition.test invoke .ifWorthy scope then
        Eval.inChild scope fun inner => Stmt.execList invoke body inner .null
      else Clause.execFirst invoke rest scope otherwise

/-- Runs the body of the first clause whose value is the given one, and otherwise the
fallback.  All values must be of one kind. -/
def Clause.execMatching (invoke : Invoke) (value : Value) :
    List Clause → ScopeId → Eval Flow → Eval Flow
  | [], _, fallback => fallback
  | .mk test body :: rest, scope, fallback => do
      let candidate ← test.eval invoke scope
      if candidate.kind ≠ value.kind then
        Eval.fail (.caseKind value.kind candidate.kind)
      else if candidate.same value then Stmt.execList invoke body scope .null
      else Clause.execMatching invoke value rest scope fallback

end

/-- Binds parameters to arguments one by one in a scope that is being made. -/
def Scope.bindAll (scope : Scope) : List String → List Value → Except Fault Scope
  | name :: names, value :: values =>
      if (scope.find? name).isSome then .error (.duplicate name)
      else (scope.bind ⟨name, value, false⟩).bindAll names values
  | _, _ => .ok scope

/-- The scope that a call runs in, or why the call is refused: the number of arguments is
checked before the number of active calls, and the parameters come last. -/
def Heap.callScope (heap : Heap) (routine : Routine) (arguments : List Value)
    (caller : ScopeId) : Except Fault Scope :=
  let limit := (heap.limits caller).callDepth
  if arguments.length ≠ routine.parameters.length then
    .error (.arity routine.name routine.parameters.length arguments.length)
  else if limit ≤ heap.depth caller then .error (.tooDeep limit)
  else (heap.callOf routine.closure (heap.depth caller)).bindAll routine.parameters arguments

/-- Calls a function with at most `budget` calls active at a time.  A body that ends without
a `snap` gives null. -/
def invokeWithin : Nat → Invoke
  | 0, _, _, _ => Eval.outOfBudget
  | budget + 1, id, arguments, caller => do
      match ← Eval.readHeap (·.routine? id) with
      | none => Eval.fail (.notCallable .routine)
      | some routine =>
          let scope ← Eval.ofExcept (← Eval.readHeap (·.callScope routine arguments caller))
          let flow ← Eval.inScope (fun _ => scope) fun inner =>
            Stmt.execList (invokeWithin budget) routine.body inner .null
          match flow with
          | .snap value => return value
          | _ => return .null

/-- The budget of calls that is never used up in a heap. -/
def Heap.callBudget (heap : Heap) : Nat := heap.greatestCallDepth + 1

/-- Runs with the calls of the heap as it is at the start. -/
def Eval.withCalls {α : Type} (run : Invoke → Eval α) : Eval α := do
  let budget ← readHeap (·.callBudget)
  run (invokeWithin budget)

/-- Runs a program in a scope.  Its value is that of the last statement, unless a `snap` or
an `endGame` stops it. -/
def Program.eval (program : Program) (scope : ScopeId) : Eval Value := do
  match ← Eval.withCalls fun invoke => Stmt.execList invoke program scope .null with
  | .normal value => return value
  | .snap value => return value
  | .endGame => return .stopped

/-- Runs the statements of a program as those of a block. -/
def Program.exec (program : Program) (scope : ScopeId) : Eval Flow :=
  Eval.withCalls fun invoke => Stmt.execList invoke program scope .null

/-- Calls a value from a scope. -/
def Value.callFrom (callee : Value) (arguments : List Value) (scope : ScopeId) : Eval Value :=
  Eval.withCalls fun invoke => callee.call invoke arguments scope

end Avenger
