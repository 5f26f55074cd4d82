import Avenger.Proofs.Change
import Avenger.Proofs.Forgetting.Handles

/-!
# Running with what is held

The evaluator again, which is told what is held while each part of a program runs: the scopes that
are open, and the values that a later step still needs or that have not gone yet.  It takes the
rule by which the bindings of a scope that ends are forgotten as an argument.  With the rule of
the world that it runs in, it is the evaluator.
-/

namespace Avenger

/-- The values that a flow carries. -/
def Flow.values : Flow → List Value
  | .normal value | .snap value => [value]
  | .endGame => []

/-- Whether the bindings of a scope that ends are forgotten, by the world, what else is held then,
the scope, and how many functions there were when it was opened. -/
abbrev Forgetting : Type := World → Held → ScopeId → Nat → Bool

namespace Forgetting

/-- As the world says. -/
def retained : Forgetting := fun world _ _ routines =>
  world.retention = .release ∧ world.heap.routines.size = routines

/-- If only functions of its own hold the scope. -/
def counted : Forgetting := fun world held scope _ => world.heap.isolates held scope

end Forgetting

/-- Ends a scope by a rule. -/
def World.forget (forgets : Forgetting) (world : World) (held : Held) (scope : ScopeId)
    (routines : Nat) : World :=
  if forgets world held scope routines then world.mapHeap (·.clear scope) else world

/-- Runs in a new scope, which is held until the run ends, and then ends it by a rule. -/
def Held.inScope (forgets : Forgetting) (held : Held) (make : Heap → Scope)
    (run : ScopeId → Held → Eval Flow) : Eval Flow := fun world =>
  let scope := world.heap.nextScope
  let routines := world.heap.routines.size
  match run scope (held.opened scope) (world.mapHeap (·.addScope (make world.heap))) with
  | .ok flow world => .ok flow (world.forget forgets (held.and flow.values) scope routines)
  | .error stop world => .error stop (world.forget forgets held scope routines)

/-- Runs in a new scope inside another one. -/
def Held.inChild (forgets : Forgetting) (held : Held) (parent : ScopeId)
    (run : ScopeId → Held → Eval Flow) : Eval Flow :=
  held.inScope forgets (·.childOf parent) run

mutual

/-- Evaluates an expression in a scope. -/
def Expr.evalHolding (invoke : Held → Invoke) (scope : ScopeId) : Expr → Held → Eval Value
  | .number value, _ => return .number value
  | .text value, _ => return .text value
  | .null, _ => return .null
  | .name identifier, _ => Eval.lookup scope identifier
  | .arithmetic operator left right, held => do
      let left ← left.evalHolding invoke scope held
      let right ← right.evalHolding invoke scope (held.and [left])
      let limits ← Eval.readHeap (·.limits scope)
      Eval.ofExcept (Value.arithmetic operator limits.iterations left right)
  | .comparison operator left right, held => do
      let left ← left.evalHolding invoke scope held
      let right ← right.evalHolding invoke scope (held.and [left])
      return Value.compare operator left right
  | .connective operator left right, held => do
      let left ← left.evalHolding invoke scope held
      let right ← right.evalHolding invoke scope (held.and [left])
      return Value.connect operator left right
  | .not operand, held => return (← operand.evalHolding invoke scope held).not
  | .minus operand, held => do Eval.ofExcept (← operand.evalHolding invoke scope held).minus
  | .assign target value, held =>
      match target with
      | .name identifier => do
          let value ← value.evalHolding invoke scope held
          Eval.assign scope identifier value
      | .member object index => do
          let base ← object.evalHolding invoke scope held
          let index ← index.evalHolding invoke scope (held.and [base])
          let value ← value.evalHolding invoke scope (held.and [index, base])
          match base, object with
          | .team id, _ => Eval.writeElement id index value
          | .text content, .name identifier =>
              Eval.writeCharacter scope identifier content index value
          | .text _, _ => Eval.fail .notAssignable
          | base, _ => Eval.fail (.misuse (.indexed base.kind))
      | _ => Eval.fail .notAssignable
  | .update operator target value, held =>
      match target with
      | .name identifier => do
          let current ← Eval.lookup scope identifier
          let value ← value.evalHolding invoke scope (held.and [current])
          match current, value with
          | .number left, .number right =>
              Eval.assign scope identifier (.number (operator.onNumbers left right))
          | current, value => Eval.fail (.updateKinds operator current.kind value.kind)
      | _ => Eval.fail .notAssignable
  | .member object index, held => do
      let object ← object.evalHolding invoke scope held
      let index ← index.evalHolding invoke scope (held.and [object])
      Eval.ofExcept (← Eval.readHeap (·.member object index))
  | .call callee arguments, held => do
      let callee ← callee.evalHolding invoke scope held
      let arguments ← Expr.evalListHolding invoke scope arguments (held.and [callee])
      callee.call (invoke (held.and [callee])) arguments scope

/-- Evaluates expressions from left to right. -/
def Expr.evalListHolding (invoke : Held → Invoke) (scope : ScopeId) :
    List Expr → Held → Eval (List Value)
  | [], _ => return []
  | expression :: rest, held => do
      let value ← expression.evalHolding invoke scope held
      let values ← Expr.evalListHolding invoke scope rest (held.and [value])
      return value :: values

end

section Parts

variable (invoke : Held → Invoke) (scope : ScopeId)

/-- Evaluates an optional expression; without one the value is null. -/
def Expr.evalOptionHolding : Option Expr → Held → Eval Value
  | some expression, held => expression.evalHolding invoke scope held
  | none, _ => return .null

/-- Evaluates the condition of a construct. -/
def Expr.testHolding (construct : Construct) (condition : Expr) (held : Held) : Eval Bool := do
  let value ← condition.evalHolding invoke scope held
  match value.truth? with
  | some truth => return truth
  | none => Eval.fail (.conditionKind construct value.kind)

/-- Evaluates a number in the header of a range loop. -/
def Expr.rangePartHolding (part : RangePart) (expression : Expr) (held : Held) : Eval Float := do
  match ← expression.evalHolding invoke scope held with
  | .number value => return value
  | value => Eval.fail (.misuse (.rangePart part value.kind))

/-- Evaluates the step of a range loop; without one it is one. -/
def Expr.stepPartHolding : Option Expr → Held → Eval Float
  | some step, held => step.rangePartHolding invoke scope .step held
  | none, _ => pure 1

/-- Evaluates the numbers in the header of a range loop. -/
def Expr.rangeHolding (start stop : Expr) (step : Option Expr) (held : Held) : Eval Range := do
  let start ← start.rangePartHolding invoke scope .start held
  let stop ← stop.rangePartHolding invoke scope .stop held
  let step ← Expr.stepPartHolding invoke scope step held
  if 0 < step then return { start, stop, step } else Eval.fail (.stepInvalid step)

end Parts

mutual

/-- Runs a statement in a scope. -/
def Stmt.execHolding (forgets : Forgetting) (invoke : Held → Invoke) :
    Stmt → ScopeId → Held → Eval Flow
  | .mk line action, scope, held =>
      Eval.atLine line (Action.execHolding forgets invoke action scope held)

/-- Does what a statement does. -/
def Action.execHolding (forgets : Forgetting) (invoke : Held → Invoke) :
    Action → ScopeId → Held → Eval Flow
  | .expression value, scope, held => return .normal (← value.evalHolding invoke scope held)
  | .declare name constant value, scope, held => do
      let value ← Expr.evalOptionHolding invoke scope value held
      return .normal (← Eval.declare scope name value constant)
  | .team name size values, scope, held => do
      let size ← Eval.ofExcept
        (Team.size name values.length (← size.evalHolding invoke scope held))
      let values ← Expr.evalListHolding invoke scope values held
      Eval.reserve scope name
      let team ← Eval.newTeam (Team.make name size values)
      return .normal (← Eval.declare scope name team false)
  | .branch condition body alternatives otherwise, scope, held => do
      if ← condition.testHolding invoke scope .ifWorthy held then
        held.inChild forgets scope fun inner held =>
          Stmt.execListHolding forgets invoke body inner .null held
      else
        Clause.execFirstHolding forgets invoke alternatives scope held
          (match otherwise with
          | some body => held.inChild forgets scope fun inner held =>
              Stmt.execListHolding forgets invoke body inner .null held
          | none => pure (.normal .null))
  | .loopWhile condition body, scope, held => do
      let limits ← Eval.readHeap (·.limits scope)
      Loop.conditional limits.iterations (condition.testHolding invoke scope .fightUntil held)
        (held.inChild forgets scope fun inner held =>
          Stmt.execListHolding forgets invoke body inner .null held)
        limits.iterations
  | .loopRange iterator start stop step body, scope, held => do
      let range ← Expr.rangeHolding invoke scope start stop step held
      let limits ← Eval.readHeap (·.limits scope)
      Loop.counted limits.iterations range
        (fun count =>
          held.inScope forgets
            (fun heap => (heap.childOf scope).bind ⟨iterator, .number count, false⟩)
            fun inner held => Stmt.execListHolding forgets invoke body inner .null held)
        limits.iterations range.start
  | .loopFor header condition modification body, scope, held =>
      held.inChild forgets scope fun outer held => do
        match ← header.execHolding forgets invoke outer held with
        | .normal _ =>
            let limits ← Eval.readHeap (·.limits outer)
            Loop.conditional limits.iterations
              (condition.testHolding invoke outer .wakandaFor held)
              (do
                match ← held.inChild forgets outer fun inner held =>
                    Stmt.execListHolding forgets invoke body inner .null held with
                -- The value of the body has gone when the modification is evaluated.
                | .normal value =>
                    let _ ← modification.evalHolding invoke outer held
                    return .normal value
                | flow => return flow)
              limits.iterations
        | flow => return flow
  | .multiverse discriminant cases fallback, scope, held => do
      let value ← discriminant.evalHolding invoke scope held
      if value.kind ≠ .number ∧ value.kind ≠ .text then
        Eval.fail (.discriminantKind value.kind)
      else
        let flow ← held.inChild forgets scope fun inner held =>
          Clause.execMatchingHolding forgets invoke value cases inner held
            (Stmt.execListHolding forgets invoke fallback inner .null held)
        match flow with
        | .endGame => return .normal .null
        | flow => return flow
  | .assemble name parameters body, scope, _ => do
      Eval.reserve scope name
      let routine ← Eval.newRoutine { name, parameters, body, closure := scope }
      return .normal (← Eval.declare scope name routine false)
  | .snap value, scope, held => return .snap (← Expr.evalOptionHolding invoke scope value held)
  | .endGame, _, _ => return .endGame

/-- Runs statements in turn, up to the first that leaves the list.  The value of the last one is
held while the next one runs. -/
def Stmt.execListHolding (forgets : Forgetting) (invoke : Held → Invoke) :
    List Stmt → ScopeId → Value → Held → Eval Flow
  | [], _, last, _ => return .normal last
  | statement :: rest, scope, last, held => do
      match ← statement.execHolding forgets invoke scope (held.and [last]) with
      | .normal value => Stmt.execListHolding forgets invoke rest scope value held
      | flow => return flow

/-- Runs the body of the first clause whose condition is true, and otherwise the rest. -/
def Clause.execFirstHolding (forgets : Forgetting) (invoke : Held → Invoke) :
    List Clause → ScopeId → Held → Eval Flow → Eval Flow
  | [], _, _, otherwise => otherwise
  | .mk condition body :: rest, scope, held, otherwise => do
      if ← condition.testHolding invoke scope .ifWorthy held then
        held.inChild forgets scope fun inner held =>
          Stmt.execListHolding forgets invoke body inner .null held
      else Clause.execFirstHolding forgets invoke rest scope held otherwise

/-- Runs the body of the first clause whose value is the given one, and otherwise the
fallback.  All values must be of one kind. -/
def Clause.execMatchingHolding (forgets : Forgetting) (invoke : Held → Invoke) (value : Value) :
    List Clause → ScopeId → Held → Eval Flow → Eval Flow
  | [], _, _, fallback => fallback
  | .mk test body :: rest, scope, held, fallback => do
      let candidate ← test.evalHolding invoke scope held
      if candidate.kind ≠ value.kind then
        Eval.fail (.caseKind value.kind candidate.kind)
      else if candidate.same value then
        Stmt.execListHolding forgets invoke body scope .null held
      else Clause.execMatchingHolding forgets invoke value rest scope held fallback

end

theorem Action.execHolding_branch (forgets : Forgetting) (invoke : Held → Invoke)
    (condition : Expr) (body : List Stmt) (alternatives : List Clause)
    (otherwise : Option (List Stmt)) (scope : ScopeId) (held : Held) :
    (Action.branch condition body alternatives otherwise).execHolding forgets invoke scope held =
      (do
        if ← condition.testHolding invoke scope .ifWorthy held then
          held.inChild forgets scope fun inner held =>
            Stmt.execListHolding forgets invoke body inner .null held
        else
          Clause.execFirstHolding forgets invoke alternatives scope held
            (match otherwise with
            | some body => held.inChild forgets scope fun inner held =>
                Stmt.execListHolding forgets invoke body inner .null held
            | none => pure (.normal .null))) := by
  cases otherwise <;> rw [Action.execHolding]

/-- Calls of functions, when their bodies are run in a given way. -/
def Held.callRoutine (forgets : Forgetting) (held : Held)
    (run : Routine → ScopeId → Held → Eval Flow) : Invoke :=
  fun id arguments caller => do
    match ← Eval.readHeap (·.routine? id) with
    | none => Eval.fail (.notCallable .routine)
    | some routine =>
        let scope ← Eval.ofExcept (← Eval.readHeap (·.callScope routine arguments caller))
        let flow ← held.inScope forgets (fun _ => scope) (run routine)
        match flow with
        | .snap value => return value
        | _ => return .null

/-- Calls a function with at most `budget` calls active at a time. -/
def invokeHolding (forgets : Forgetting) : Nat → Held → Invoke
  | 0, _ => fun _ _ _ => Eval.outOfBudget
  | budget + 1, held => held.callRoutine forgets fun routine inner held =>
      Stmt.execListHolding forgets (invokeHolding forgets budget) routine.body inner .null held

/-- Runs the statements of a program in a scope. -/
def Program.execHolding (forgets : Forgetting) (program : Program) (scope : ScopeId)
    (held : Held) : Eval Flow := do
  let budget ← Eval.readHeap (·.callBudget)
  Stmt.execListHolding forgets (invokeHolding forgets budget) program scope .null held

/-- Runs a program in a scope. -/
def Program.evalHolding (forgets : Forgetting) (program : Program) (scope : ScopeId)
    (held : Held) : Eval Value := do
  match ← program.execHolding forgets scope held with
  | .normal value => return value
  | .snap value => return value
  | .endGame => return .stopped

section Ends

variable {forgets : Forgetting} {held : Held} {make : Heap → Scope}
  {run : ScopeId → Held → Eval Flow} {world later : World}

theorem Held.inScope_of_ok {flow : Flow}
    (ended : run world.heap.nextScope (held.opened world.heap.nextScope)
      (world.mapHeap (·.addScope (make world.heap))) = .ok flow later) :
    held.inScope forgets make run world = .ok flow
      (later.forget forgets (held.and flow.values) world.heap.nextScope
        world.heap.routines.size) := by
  simp only [inScope, ended]

theorem Held.inScope_of_error {stop : Eval.Stop}
    (ended : run world.heap.nextScope (held.opened world.heap.nextScope)
      (world.mapHeap (·.addScope (make world.heap))) = .error stop later) :
    held.inScope forgets make run world = .error stop
      (later.forget forgets held world.heap.nextScope world.heap.routines.size) := by
  simp only [inScope, ended]

end Ends

/-! ### The rule of the world -/

theorem World.forget_retained (world : World) (held : Held) (scope : ScopeId) (routines : Nat) :
    world.forget .retained held scope routines = world.endScope scope routines := by
  simp only [World.forget, World.endScope, Forgetting.retained, decide_eq_true_eq]
  rfl

theorem Held.inScope_retained (held : Held) (make : Heap → Scope)
    {run : ScopeId → Held → Eval Flow} {run' : ScopeId → Eval Flow}
    (same : ∀ inner held, run inner held = run' inner) :
    held.inScope .retained make run = Eval.inScope make run' := by
  funext world
  have inside := same world.heap.nextScope (held.opened world.heap.nextScope)
  cases ended : run' world.heap.nextScope (world.mapHeap (·.addScope (make world.heap))) with
  | ok flow later =>
      rw [Eval.inScope_of_ok ended, Held.inScope_of_ok (inside ▸ ended), World.forget_retained]
  | error stop later =>
      rw [Eval.inScope_of_error ended, Held.inScope_of_error (inside ▸ ended),
        World.forget_retained]

theorem Held.inChild_retained (held : Held) (scope : ScopeId)
    {run : ScopeId → Held → Eval Flow} {run' : ScopeId → Eval Flow}
    (same : ∀ inner held, run inner held = run' inner) :
    held.inChild .retained scope run = Eval.inChild scope run' :=
  held.inScope_retained _ same

theorem Held.callRoutine_retained (held : Held) {run : Routine → ScopeId → Held → Eval Flow}
    {run' : Routine → ScopeId → Eval Flow}
    (same : ∀ routine inner held, run routine inner held = run' routine inner) :
    held.callRoutine .retained run = Eval.callRoutine run' := by
  funext id arguments caller
  refine bind_congr fun found => ?_
  cases found with
  | none => rfl
  | some routine =>
      refine bind_congr fun made => bind_congr fun scope => ?_
      exact congrArg (· >>= _) (held.inScope_retained (fun _ => scope) (same routine))

/-- Calls that are the same whatever is held. -/
def SameCalls (invoke : Held → Invoke) (invoke' : Invoke) : Prop := ∀ held, invoke held = invoke'

namespace SameCalls

variable {invoke : Held → Invoke} {invoke' : Invoke}

mutual

theorem expression (calls : SameCalls invoke invoke') (scope : ScopeId) (expression : Expr)
    (held : Held) : expression.evalHolding invoke scope held = expression.eval invoke' scope := by
  cases expression with
  | number _ | text _ | null | name _ => simp only [Expr.evalHolding, Expr.eval]
  | arithmetic _ left right | comparison _ left right | connective _ left right =>
      simp only [Expr.evalHolding, Expr.eval, calls.expression scope left,
        calls.expression scope right]
  | not operand | minus operand =>
      simp only [Expr.evalHolding, Expr.eval, calls.expression scope operand]
  | assign target value =>
      cases target with
      | member object index =>
          refine congrArg₂ (· >>= ·) (calls.expression scope object held) (funext fun base => ?_)
          refine congrArg₂ (· >>= ·) (calls.expression scope index _) (funext fun index => ?_)
          exact congrArg (· >>= _) (calls.expression scope value _)
      | _ => simp only [Expr.evalHolding, Expr.eval, calls.expression scope value]
  | update _ target value =>
      cases target with
      | name identifier =>
          refine bind_congr fun current => ?_
          exact congrArg (· >>= _) (calls.expression scope value _)
      | _ => simp only [Expr.evalHolding, Expr.eval]
  | member object index =>
      simp only [Expr.evalHolding, Expr.eval, calls.expression scope object,
        calls.expression scope index]
  | call callee arguments =>
      simp only [Expr.evalHolding, Expr.eval, calls.expression scope callee,
        calls.expressions scope arguments, calls _]

/-- List counterpart of `expression`. -/
theorem expressions (calls : SameCalls invoke invoke') (scope : ScopeId) (expressions : List Expr)
    (held : Held) :
    Expr.evalListHolding invoke scope expressions held =
      Expr.evalList invoke' scope expressions := by
  cases expressions with
  | nil => rfl
  | cons expression rest =>
      simp only [Expr.evalListHolding, Expr.evalList, calls.expression scope expression,
        calls.expressions scope rest]

end

theorem option (calls : SameCalls invoke invoke') (scope : ScopeId) (expression : Option Expr)
    (held : Held) :
    Expr.evalOptionHolding invoke scope expression held =
      Expr.evalOption invoke' scope expression := by
  cases expression with
  | none => rfl
  | some expression => exact calls.expression scope expression held

theorem test (calls : SameCalls invoke invoke') (scope : ScopeId) (construct : Construct)
    (condition : Expr) (held : Held) :
    condition.testHolding invoke scope construct held =
      condition.test invoke' construct scope :=
  congrArg (fun run : Eval Value => run >>= _) (calls.expression scope condition held)

theorem rangePart (calls : SameCalls invoke invoke') (scope : ScopeId) (part : RangePart)
    (expression : Expr) (held : Held) :
    expression.rangePartHolding invoke scope part held =
      expression.rangePart invoke' part scope :=
  congrArg (fun run : Eval Value => run >>= _) (calls.expression scope expression held)

theorem range (calls : SameCalls invoke invoke') (scope : ScopeId) (start stop : Expr)
    (step : Option Expr) (held : Held) :
    Expr.rangeHolding invoke scope start stop step held =
      Expr.range invoke' scope start stop step := by
  have stepPart : Expr.stepPartHolding invoke scope step held =
      Expr.stepPart invoke' scope step := by
    cases step with
    | none => rfl
    | some step => exact calls.rangePart scope .step step held
  simp only [Expr.rangeHolding, Expr.range_eq, calls.rangePart, stepPart]

mutual

theorem statement (calls : SameCalls invoke invoke') (statement : Stmt) (scope : ScopeId)
    (held : Held) :
    statement.execHolding .retained invoke scope held = statement.exec invoke' scope := by
  cases statement with
  | mk line action => exact congrArg (Eval.atLine line) (calls.action action scope held)

/-- Counterpart of `statement` for what statements do. -/
theorem action (calls : SameCalls invoke invoke') (action : Action) (scope : ScopeId)
    (held : Held) :
    action.execHolding .retained invoke scope held = action.exec invoke' scope := by
  cases action with
  | expression value => simp only [Action.execHolding, Action.exec, calls.expression]
  | declare name constant value => simp only [Action.execHolding, Action.exec, calls.option]
  | team name size values =>
      simp only [Action.execHolding, Action.exec, calls.expression, calls.expressions]
  | branch condition body alternatives otherwise =>
      have bodies := held.inChild_retained scope fun inner => calls.statements body inner .null
      cases otherwise with
      | none =>
          simp only [Action.execHolding, Action.exec, calls.test, bodies,
            calls.firstClause alternatives]
      | some last =>
          have lasts := held.inChild_retained scope fun inner => calls.statements last inner .null
          simp only [Action.execHolding, Action.exec, calls.test, bodies, lasts,
            calls.firstClause alternatives]
  | loopWhile condition body =>
      have bodies := held.inChild_retained scope fun inner => calls.statements body inner .null
      simp only [Action.execHolding, Action.exec, calls.test, bodies]
  | loopRange iterator start stop step body =>
      have bodies (make : Heap → Scope) :=
        held.inScope_retained make fun inner => calls.statements body inner .null
      simp only [Action.execHolding, Action.exec, calls.range, bodies]
  | loopFor header condition modification body =>
      refine held.inChild_retained scope fun outer held => ?_
      have bodies := held.inChild_retained outer fun inner => calls.statements body inner .null
      refine congrArg₂ (· >>= ·) (calls.statement header outer held) (funext fun flow => ?_)
      cases flow with
      | snap _ | endGame => rfl
      | normal _ =>
          refine bind_congr fun limits => ?_
          refine congrArg₂ (Loop.conditional limits.iterations · · limits.iterations)
            (calls.test outer .wakandaFor condition held) ?_
          refine congrArg₂ (· >>= ·) bodies (funext fun flow => ?_)
          cases flow with
          | normal _ => exact congrArg (· >>= _) (calls.expression outer modification held)
          | snap _ | endGame => rfl
  | multiverse discriminant cases fallback =>
      have clauses (value : Value) : (held.inChild .retained scope fun inner held =>
          Clause.execMatchingHolding .retained invoke value cases inner held
            (Stmt.execListHolding .retained invoke fallback inner .null held)) =
          Eval.inChild scope fun inner => Clause.execMatching invoke' value cases inner
            (Stmt.execList invoke' fallback inner .null) :=
        held.inChild_retained scope fun inner held =>
          calls.matchingClause value cases inner held (calls.statements fallback inner .null held)
      refine congrArg₂ (· >>= ·) (calls.expression scope discriminant held)
        (funext fun value => ?_)
      exact ite_congr rfl (fun _ => rfl) fun _ => congrArg (· >>= _) (clauses value)
  | assemble name parameters body => simp only [Action.execHolding, Action.exec]
  | snap value => simp only [Action.execHolding, Action.exec, calls.option]
  | endGame => simp only [Action.execHolding, Action.exec]

/-- List counterpart of `statement`. -/
theorem statements (calls : SameCalls invoke invoke') (statements : List Stmt) (scope : ScopeId)
    (last : Value) (held : Held) :
    Stmt.execListHolding .retained invoke statements scope last held =
      Stmt.execList invoke' statements scope last := by
  cases statements with
  | nil => rfl
  | cons statement rest =>
      refine congrArg₂ (· >>= ·) (calls.statement statement scope _) (funext fun flow => ?_)
      cases flow with
      | normal value => exact calls.statements rest scope value held
      | snap _ | endGame => rfl

theorem firstClause (calls : SameCalls invoke invoke') (clauses : List Clause) (scope : ScopeId)
    (held : Held) (otherwise : Eval Flow) :
    Clause.execFirstHolding .retained invoke clauses scope held otherwise =
      Clause.execFirst invoke' clauses scope otherwise := by
  match clauses with
  | [] => rfl
  | .mk condition body :: rest =>
      have bodies := held.inChild_retained scope fun inner => calls.statements body inner .null
      simp only [Clause.execFirstHolding, Clause.execFirst, calls.test, bodies,
        calls.firstClause rest]

theorem matchingClause (calls : SameCalls invoke invoke') (value : Value) (clauses : List Clause)
    (scope : ScopeId) (held : Held) {fallback fallback' : Eval Flow}
    (same : fallback = fallback') :
    Clause.execMatchingHolding .retained invoke value clauses scope held fallback =
      Clause.execMatching invoke' value clauses scope fallback' := by
  match clauses with
  | [] => exact same
  | .mk test body :: rest =>
      simp only [Clause.execMatchingHolding, Clause.execMatching, calls.expression,
        calls.statements body, calls.matchingClause value rest scope held same]

end

/-- Calls by the rule of the world are calls. -/
theorem within (budget : Nat) :
    SameCalls (invokeHolding .retained budget) (invokeWithin budget) := by
  induction budget with
  | zero => exact fun _ => rfl
  | succ budget induction =>
      exact fun held => held.callRoutine_retained fun routine inner =>
        induction.statements routine.body inner .null

end SameCalls

theorem Program.execHolding_eq (program : Program) (scope : ScopeId) (held : Held) :
    program.execHolding .retained scope held = program.exec scope := by
  simp only [Program.execHolding, Program.exec, Eval.withCalls, (SameCalls.within _).statements]

/-- By the rule of the world, programs run as they do. -/
theorem Program.evalHolding_eq (program : Program) (scope : ScopeId) (held : Held) :
    program.evalHolding .retained scope held = program.eval scope :=
  congrArg (fun run : Eval Flow => run >>= _) (program.execHolding_eq scope held)

end Avenger
