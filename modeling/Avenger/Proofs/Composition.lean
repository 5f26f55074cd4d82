import Avenger.Proofs.Bodies
import Avenger.Session

/-!
# Properties that runs inherit from their parts

The runs of programs are put together from a few primitive runs in a few ways.  A property of
runs that all primitive runs have and all these ways keep therefore holds of every program.
`Eval.ExpressionLaws` lists those that expressions are made of, and `Eval.Compositional` all of
them; the induction over expressions and that over programs are made here once.
-/

namespace Avenger

/-- Calls of functions, when their bodies are run in a given way. -/
def Eval.callRoutine (run : Routine → ScopeId → Eval Flow) : Invoke :=
  fun id arguments caller => do
    match ← readHeap (·.routine? id) with
    | none => fail (.notCallable .routine)
    | some routine =>
        let scope ← ofExcept (← readHeap (·.callScope routine arguments caller))
        let flow ← inScope (fun _ => scope) (run routine)
        match flow with
        | .snap value => return value
        | _ => return .null

theorem invokeWithin_succ (budget : Nat) :
    invokeWithin (budget + 1) = Eval.callRoutine fun routine inner =>
      Stmt.execList (invokeWithin budget) routine.body inner .null :=
  rfl

/-- A scope inside another one that starts with some bindings. -/
def Heap.blockOf (heap : Heap) (parent : ScopeId) (bindings : List Binding) : Scope :=
  { heap.childOf parent with bindings }

/-- The name that an action declares in its own scope, and whether it is a constant there. -/
def Action.declares? : Action → Option (String × Bool)
  | .declare name constant _ => some (name, constant)
  | .team name _ _ | .assemble name _ _ => some (name, false)
  | _ => none

/-- A property `holds scope run` of runs that work in a scope, which the primitive runs of
expressions have and the ways to combine these keep. -/
structure Eval.ExpressionLaws (holds : ∀ {α : Type}, ScopeId → Eval α → Prop) : Prop where
  pure : ∀ {α : Type} {scope : ScopeId} (result : α), holds scope (Pure.pure result : Eval α)
  stop : ∀ {α : Type} {scope : ScopeId} (stop : Stop),
    (∀ error, stop = .error error → error.line = none) → holds scope (throw stop : Eval α)
  bind : ∀ {α β : Type} {scope : ScopeId} {run : Eval α} {next : α → Eval β},
    holds scope run → (∀ result, holds scope (next result)) → holds scope (run >>= next)
  readHeap : ∀ {α : Type} {scope : ScopeId} {read : Heap → α}, Heap.Bodiless read →
    holds scope (Eval.readHeap read)
  print : ∀ {scope : ScopeId} (line : String), holds scope (Eval.print line)
  readClock : ∀ {scope : ScopeId}, holds scope Eval.readClock
  readChance : ∀ {scope : ScopeId}, holds scope Eval.readChance
  assign : ∀ {scope : ScopeId} (name : String) (value : Value),
    holds scope (Eval.assign scope name value)
  writeElement : ∀ {scope : ScopeId} (id : TeamId) (index value : Value),
    holds scope (Eval.writeElement id index value)

/-- A property of runs that all primitive runs have and all ways to combine runs keep.  Only
what statements do is labelled with a line.  Names are declared only in scopes that are
`declaring`, among which are all those that a run itself opens. -/
structure Eval.Compositional (declaring : ScopeId → Prop)
    (holds : ∀ {α : Type}, ScopeId → Eval α → Prop) : Prop extends ExpressionLaws holds where
  atLine : ∀ {scope : ScopeId} {invoke : Invoke} {action : Action} (line : Nat),
    holds scope (action.exec invoke scope) →
      holds scope (Eval.atLine line (action.exec invoke scope))
  declare : ∀ {scope : ScopeId} (name : String) (value : Value) (constant : Bool),
    declaring scope → holds scope (Eval.declare scope name value constant)
  newTeam : ∀ {scope : ScopeId} (team : Team), holds scope (Eval.newTeam team)
  newRoutine : ∀ {scope : ScopeId} (routine : Routine), routine.closure = scope →
    holds scope (Eval.newRoutine routine)
  inBlock : ∀ {α : Type} {scope : ScopeId} {run : ScopeId → Eval α} (bindings : List Binding),
    (∀ binding ∈ bindings, binding.constant = false) →
    (∀ inner, declaring inner → holds inner (run inner)) →
    holds scope (Eval.inScope (·.blockOf scope bindings) run)
  call : ∀ {scope : ScopeId} {run : Routine → ScopeId → Eval Flow} (id : RoutineId)
    (arguments : List Value),
    (∀ routine inner, declaring inner → holds inner (run routine inner)) →
    holds scope (Eval.callRoutine run id arguments scope)

namespace Eval.ExpressionLaws

variable {holds : ∀ {α : Type}, ScopeId → Eval α → Prop} {α : Type} {scope : ScopeId}
  (laws : ExpressionLaws holds)
include laws

/-! ### Runs without programs -/

theorem fail (fault : Fault) : holds scope (Eval.fail fault : Eval α) := by
  refine laws.stop _ fun error raised => ?_
  cases raised
  rfl

theorem ofExcept (result : Except Fault α) : holds scope (Eval.ofExcept result) := by
  cases result with
  | ok result => exact laws.pure result
  | error fault => exact laws.fail fault

theorem lookup (name : String) : holds scope (Eval.lookup scope name) :=
  laws.bind (laws.readHeap (.lookup scope name)) fun _ => laws.ofExcept _

theorem reserve (name : String) : holds scope (Eval.reserve scope name) := by
  refine laws.bind (laws.readHeap (.binds scope name)) fun bound => ?_
  cases bound with
  | true => exact laws.fail _
  | false => exact laws.pure ()

theorem writeCharacter (name text : String) (index value : Value) :
    holds scope (Eval.writeCharacter scope name text index value) :=
  laws.bind (laws.readHeap (.splicedText text index value)) fun spliced =>
    laws.bind (laws.ofExcept spliced) fun _ =>
      laws.bind (laws.assign _ _) fun _ => laws.pure _

theorem printAll (values : List Value) : holds scope (Native.printAll values) := by
  induction values with
  | nil => exact laws.pure ()
  | cons value values induction =>
      have printed : holds scope (do
          Eval.print (← Eval.readHeap (·.valueText value))
          Native.printAll values) :=
        laws.bind (laws.readHeap (.valueText value)) fun _ =>
          laws.bind (laws.print _) fun _ => induction
      cases value with
      | team _ => exact laws.fail _
      | number _ | text _ | boolean _ | null | routine _ | native _ _ | stopped => exact printed

theorem nativeTest (actual expected : Value) : holds scope (Native.test actual expected) := by
  unfold Native.test
  split
  · exact laws.fail _
  · split
    · exact laws.fail _
    · split
      · have shown : Heap.Bodiless fun heap =>
            Fault.testFailed (heap.valueText expected) (heap.valueText actual) := by
          intro heap change
          have text (value : Value) :
              (heap.mapBodies change).valueText value = heap.valueText value :=
            Heap.Bodiless.valueText value heap change
          simp only [text]
        have failing : holds scope (Eval.readHeap (fun heap =>
            Fault.testFailed (heap.valueText expected) (heap.valueText actual)) >>=
              fun fault => (Eval.fail fault : Eval Value)) :=
          laws.bind (laws.readHeap shown) fun fault => laws.fail fault
        exact failing
      · exact laws.bind (laws.print _) fun _ => laws.pure _

theorem native (function : Native) (arguments : List Value) :
    holds scope (function.apply arguments) := by
  refine laws.bind (laws.ofExcept _) fun _ => ?_
  split
  · unfold Native.printValues
    split
    · exact laws.bind (laws.print _) fun _ => laws.pure _
    · exact laws.bind (laws.printAll arguments) fun _ => laws.pure _
  · exact laws.nativeTest _ _
  · exact laws.bind laws.readClock fun _ => laws.pure _
  · exact laws.bind laws.readChance fun _ => laws.pure _
  · exact laws.bind (laws.readHeap (.pureResult _ arguments)) fun _ => laws.ofExcept _

section Loops

variable {limit : Nat}

theorem conditional {test : Eval Bool} {turn : Eval Flow} (tests : holds scope test)
    (turns : holds scope turn) (left : Nat) :
    holds scope (Loop.conditional limit test turn left) := by
  induction left with
  | zero =>
      refine laws.bind tests fun goes => ?_
      cases goes with
      | true => exact laws.fail _
      | false => exact laws.pure _
  | succ left induction =>
      refine laws.bind tests fun goes => ?_
      cases goes with
      | false => exact laws.pure _
      | true =>
          refine laws.bind turns fun flow => ?_
          cases flow with
          | normal _ => exact induction
          | snap _ | endGame => exact laws.pure _

theorem counted {range : Range} {turn : Float → Eval Flow}
    (turns : ∀ count, holds scope (turn count)) (left : Nat) (count : Float) :
    holds scope (Loop.counted limit range turn left count) := by
  induction left generalizing count with
  | zero =>
      unfold Loop.counted
      split
      · exact laws.fail _
      · exact laws.pure _
  | succ left induction =>
      unfold Loop.counted
      split
      · refine laws.bind (turns count) fun flow => ?_
        cases flow with
        | normal _ => exact induction _
        | snap _ | endGame => exact laws.pure _
      · exact laws.pure _

end Loops

end Eval.ExpressionLaws

/-! ### Programs -/

/-- The step of a range loop. -/
def Expr.stepPart (invoke : Invoke) (scope : ScopeId) : Option Expr → Eval Float
  | some step => step.rangePart invoke .step scope
  | none => pure 1

section Equations

variable {invoke : Invoke}

theorem Expr.range_eq (scope : ScopeId) (start stop : Expr) (step : Option Expr) :
    Expr.range invoke scope start stop step = (do
      let start ← start.rangePart invoke .start scope
      let stop ← stop.rangePart invoke .stop scope
      let step ← Expr.stepPart invoke scope step
      if 0 < step then return { start, stop, step }
      else Eval.fail (.stepInvalid step)) := by
  cases step <;> rfl

theorem Action.exec_branch (condition : Expr) (body : List Stmt)
    (alternatives : List Clause) (otherwise : Option (List Stmt)) (scope : ScopeId) :
    (Action.branch condition body alternatives otherwise).exec invoke scope = (do
      if ← condition.test invoke .ifWorthy scope then
        Eval.inChild scope fun inner => Stmt.execList invoke body inner .null
      else
        Clause.execFirst invoke alternatives scope
          (match otherwise with
          | some body =>
              Eval.inChild scope fun inner => Stmt.execList invoke body inner .null
          | none => pure (.normal .null))) := by
  cases otherwise <;> rw [Action.exec]

end Equations

namespace Eval.ExpressionLaws

variable {holds : ∀ {α : Type}, ScopeId → Eval α → Prop} {invoke : Invoke}

theorem value {scope : ScopeId} (laws : ExpressionLaws holds)
    (calls : ∀ id arguments scope, holds scope (invoke id arguments scope)) (callee : Value)
    (arguments : List Value) : holds scope (callee.call invoke arguments scope) := by
  unfold Value.call
  split
  · exact laws.native _ arguments
  · exact calls _ arguments scope
  · exact laws.fail _

mutual

theorem expression {scope : ScopeId} (laws : ExpressionLaws holds)
    (calls : ∀ id arguments scope, holds scope (invoke id arguments scope))
    (expression : Expr) : holds scope (expression.eval invoke scope) := by
  cases expression with
  | number _ | text _ | null => exact laws.pure _
  | name identifier => exact laws.lookup identifier
  | arithmetic operator left right =>
      refine laws.bind (laws.expression calls left) fun _ => ?_
      refine laws.bind (laws.expression calls right) fun _ => ?_
      exact laws.bind (laws.readHeap (.limits scope)) fun _ => laws.ofExcept _
  | comparison operator left right =>
      refine laws.bind (laws.expression calls left) fun _ => ?_
      exact laws.bind (laws.expression calls right) fun _ => laws.pure _
  | connective operator left right =>
      refine laws.bind (laws.expression calls left) fun _ => ?_
      exact laws.bind (laws.expression calls right) fun _ => laws.pure _
  | not operand => exact laws.bind (laws.expression calls operand) fun _ => laws.pure _
  | minus operand => exact laws.bind (laws.expression calls operand) fun _ => laws.ofExcept _
  | assign target value =>
      unfold Expr.eval
      split
      · exact laws.bind (laws.expression calls value) fun _ => laws.assign _ _
      · rename_i object index
        refine laws.bind (laws.expression calls object) fun _ => ?_
        refine laws.bind (laws.expression calls index) fun _ => ?_
        refine laws.bind (laws.expression calls value) fun _ => ?_
        split
        · exact laws.writeElement _ _ _
        · exact laws.writeCharacter _ _ _ _
        · exact laws.fail _
        · exact laws.fail _
      · exact laws.fail _
  | update operator target value =>
      unfold Expr.eval
      split
      · refine laws.bind (laws.lookup _) fun _ => ?_
        refine laws.bind (laws.expression calls value) fun _ => ?_
        split
        · exact laws.assign _ _
        · exact laws.fail _
      · exact laws.fail _
  | member object index =>
      refine laws.bind (laws.expression calls object) fun _ => ?_
      refine laws.bind (laws.expression calls index) fun _ => ?_
      exact laws.bind (laws.readHeap (.member _ _)) fun _ => laws.ofExcept _
  | call callee arguments =>
      refine laws.bind (laws.expression calls callee) fun callee => ?_
      refine laws.bind (laws.expressions calls arguments) fun arguments => ?_
      exact laws.value calls callee arguments

/-- List counterpart of `expression`. -/
theorem expressions {scope : ScopeId} (laws : ExpressionLaws holds)
    (calls : ∀ id arguments scope, holds scope (invoke id arguments scope))
    (expressions : List Expr) :
    holds scope (Expr.evalList invoke scope expressions) := by
  cases expressions with
  | nil => exact laws.pure _
  | cons expression rest =>
      refine laws.bind (laws.expression calls expression) fun _ => ?_
      exact laws.bind (laws.expressions calls rest) fun _ => laws.pure _

end

theorem option {scope : ScopeId} (laws : ExpressionLaws holds)
    (calls : ∀ id arguments scope, holds scope (invoke id arguments scope))
    (expression : Option Expr) :
    holds scope (Expr.evalOption invoke scope expression) := by
  cases expression with
  | none => exact laws.pure _
  | some expression => exact laws.expression calls expression

theorem test {scope : ScopeId} (laws : ExpressionLaws holds)
    (calls : ∀ id arguments scope, holds scope (invoke id arguments scope))
    (construct : Construct) (condition : Expr) :
    holds scope (condition.test invoke construct scope) := by
  refine laws.bind (laws.expression calls condition) fun _ => ?_
  split
  · exact laws.pure _
  · exact laws.fail _

theorem rangePart {scope : ScopeId} (laws : ExpressionLaws holds)
    (calls : ∀ id arguments scope, holds scope (invoke id arguments scope))
    (part : RangePart) (expression : Expr) :
    holds scope (expression.rangePart invoke part scope) := by
  refine laws.bind (laws.expression calls expression) fun _ => ?_
  split
  · exact laws.pure _
  · exact laws.fail _

theorem stepPart {scope : ScopeId} (laws : ExpressionLaws holds)
    (calls : ∀ id arguments scope, holds scope (invoke id arguments scope))
    (step : Option Expr) : holds scope (Expr.stepPart invoke scope step) := by
  cases step with
  | none => exact laws.pure _
  | some step => exact laws.rangePart calls .step step

theorem range {scope : ScopeId} (laws : ExpressionLaws holds)
    (calls : ∀ id arguments scope, holds scope (invoke id arguments scope))
    (start stop : Expr) (step : Option Expr) :
    holds scope (Expr.range invoke scope start stop step) := by
  rw [Expr.range_eq]
  refine laws.bind (laws.rangePart calls .start start) fun _ => ?_
  refine laws.bind (laws.rangePart calls .stop stop) fun _ => ?_
  refine laws.bind (laws.stepPart calls step) fun _ => ?_
  split
  · exact laws.pure _
  · exact laws.fail _

theorem withCalls {α : Type} {scope : ScopeId} {run : Invoke → Eval α}
    (laws : ExpressionLaws holds)
    (inside : ∀ budget, holds scope (run (Avenger.invokeWithin budget))) :
    holds scope (Eval.withCalls run) :=
  laws.bind (laws.readHeap .callBudget) inside

end Eval.ExpressionLaws

namespace Eval.Compositional

variable {declaring : ScopeId → Prop} {holds : ∀ {α : Type}, ScopeId → Eval α → Prop}
  {invoke : Invoke}

theorem inChild {α : Type} {scope : ScopeId} (laws : Compositional declaring holds)
    {run : ScopeId → Eval α}
    (inside : ∀ inner, declaring inner → holds inner (run inner)) :
    holds scope (Eval.inChild scope run) :=
  laws.inBlock [] (List.forall_mem_nil _) inside

mutual

theorem statement {scope : ScopeId} (laws : Compositional declaring holds)
    (calls : ∀ id arguments scope, holds scope (invoke id arguments scope))
    (statement : Stmt)
    (allowed : statement.action.declares?.isSome → declaring scope) :
    holds scope (statement.exec invoke scope) := by
  cases statement with
  | mk line action => exact laws.atLine line (laws.action calls action allowed)

/-- Counterpart of `statement` for what statements do. -/
theorem action {scope : ScopeId} (laws : Compositional declaring holds)
    (calls : ∀ id arguments scope, holds scope (invoke id arguments scope))
    (action : Action) (allowed : action.declares?.isSome → declaring scope) :
    holds scope (action.exec invoke scope) := by
  cases action with
  | expression value => exact laws.bind (laws.expression calls value) fun _ => laws.pure _
  | declare name constant value =>
      refine laws.bind (laws.option calls value) fun _ => ?_
      exact laws.bind (laws.declare _ _ _ (allowed rfl)) fun _ => laws.pure _
  | team name size values =>
      refine laws.bind (laws.expression calls size) fun _ => ?_
      refine laws.bind (laws.ofExcept _) fun _ => ?_
      refine laws.bind (laws.expressions calls values) fun _ => ?_
      refine laws.bind (laws.reserve name) fun _ => ?_
      refine laws.bind (laws.newTeam _) fun _ => ?_
      exact laws.bind (laws.declare _ _ _ (allowed rfl)) fun _ => laws.pure _
  | branch condition body alternatives otherwise =>
      rw [Action.exec_branch]
      refine laws.bind (laws.test calls .ifWorthy condition) fun goes => ?_
      cases goes with
      | true => exact laws.inChild fun inner opened => laws.statements calls body _ opened
      | false =>
          refine laws.firstClause calls alternatives ?_
          cases otherwise with
          | none => exact laws.pure _
          | some body => exact laws.inChild fun inner opened => laws.statements calls body _ opened
  | loopWhile condition body =>
      refine laws.bind (laws.readHeap (.limits _)) fun limits => ?_
      exact laws.conditional (laws.test calls .fightUntil condition)
        (laws.inChild fun inner opened => laws.statements calls body _ opened) _
  | loopRange iterator start stop step body =>
      refine laws.bind (laws.range calls start stop step) fun range => ?_
      refine laws.bind (laws.readHeap (.limits _)) fun limits => ?_
      exact laws.counted
        (fun count => laws.inBlock [⟨iterator, .number count, false⟩]
          (List.forall_mem_singleton.mpr rfl)
          fun inner opened => laws.statements calls body _ opened) _ _
  | loopFor header condition modification body =>
      refine laws.inChild fun outer opened => ?_
      refine laws.bind (laws.statement calls header fun _ => opened) fun flow => ?_
      cases flow with
      | snap _ | endGame => exact laws.pure _
      | normal _ =>
          refine laws.bind (laws.readHeap (.limits _)) fun limits => ?_
          refine laws.conditional (laws.test calls .wakandaFor condition) ?_ _
          refine laws.bind
            (laws.inChild fun inner opened => laws.statements calls body _ opened) fun flow => ?_
          cases flow with
          | snap _ | endGame => exact laws.pure _
          | normal _ => exact laws.bind (laws.expression calls modification) fun _ => laws.pure _
  | multiverse discriminant cases fallback =>
      refine laws.bind (laws.expression calls discriminant) fun value => ?_
      split
      · exact laws.fail _
      · refine laws.bind (laws.inChild fun inner opened =>
          laws.matchingClause calls value cases opened
            (laws.statements calls fallback _ opened)) fun flow => ?_
        cases flow with
        | normal _ | snap _ | endGame => exact laws.pure _
  | assemble name parameters body =>
      refine laws.bind (laws.reserve name) fun _ => ?_
      refine laws.bind (laws.newRoutine _ rfl) fun _ => ?_
      exact laws.bind (laws.declare _ _ _ (allowed rfl)) fun _ => laws.pure _
  | snap value => exact laws.bind (laws.option calls value) fun _ => laws.pure _
  | endGame => exact laws.pure _

/-- List counterpart of `statement`. -/
theorem statements {scope : ScopeId} (laws : Compositional declaring holds)
    (calls : ∀ id arguments scope, holds scope (invoke id arguments scope))
    (statements : List Stmt) (last : Value) (opened : declaring scope) :
    holds scope (Stmt.execList invoke statements scope last) := by
  cases statements with
  | nil => exact laws.pure _
  | cons statement rest =>
      refine laws.bind (laws.statement calls statement fun _ => opened) fun flow => ?_
      cases flow with
      | normal value => exact laws.statements calls rest value opened
      | snap _ | endGame => exact laws.pure _

theorem firstClause {scope : ScopeId} (laws : Compositional declaring holds)
    (calls : ∀ id arguments scope, holds scope (invoke id arguments scope))
    (clauses : List Clause) {otherwise : Eval Flow}
    (last : holds scope otherwise) :
    holds scope (Clause.execFirst invoke clauses scope otherwise) := by
  match clauses with
  | [] => exact last
  | .mk condition body :: rest =>
      refine laws.bind (laws.test calls .ifWorthy condition) fun goes => ?_
      cases goes with
      | true => exact laws.inChild fun inner opened => laws.statements calls body _ opened
      | false => exact laws.firstClause calls rest last

theorem matchingClause {scope : ScopeId} (laws : Compositional declaring holds)
    (calls : ∀ id arguments scope, holds scope (invoke id arguments scope))
    (value : Value) (clauses : List Clause) {fallback : Eval Flow}
    (opened : declaring scope) (last : holds scope fallback) :
    holds scope (Clause.execMatching invoke value clauses scope fallback) := by
  match clauses with
  | [] => exact last
  | .mk test body :: rest =>
      refine laws.bind (laws.expression calls test) fun candidate => ?_
      split
      · exact laws.fail _
      · split
        · exact laws.statements calls body _ opened
        · exact laws.matchingClause calls value rest opened last

end

/-- A call has the property, whatever its budget. -/
theorem invokeWithin {scope : ScopeId} (laws : Compositional declaring holds) (budget : Nat)
    (id : RoutineId) (arguments : List Value) :
    holds scope (Avenger.invokeWithin budget id arguments scope) := by
  induction budget generalizing id arguments scope with
  | zero => exact laws.stop _ nofun
  | succ budget induction =>
      rw [invokeWithin_succ]
      exact laws.call id arguments fun routine inner opened =>
        laws.statements (fun id arguments scope => induction id arguments) routine.body _ opened

theorem exec {scope : ScopeId} (laws : Compositional declaring holds) (program : Program)
    (opened : declaring scope) : holds scope (program.exec scope) :=
  laws.withCalls fun budget =>
    laws.statements (fun _ _ _ => laws.invokeWithin budget _ _) program .null opened

theorem program {scope : ScopeId} (laws : Compositional declaring holds) (program : Program)
    (opened : declaring scope) : holds scope (program.eval scope) := by
  refine laws.bind (laws.exec program opened) fun flow => ?_
  cases flow with
  | normal _ | snap _ | endGame => exact laws.pure _

end Eval.Compositional

end Avenger
