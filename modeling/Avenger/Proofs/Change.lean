import Avenger.Proofs.Composition
import Mathlib.Logic.Relation

/-!
# What a run can change

However a program runs, and however its run ends, it changes the world in a few ways
only: it prints, takes a reading, adds to the heap, or changes one scope or one team of it.
`World.Change` lists these ways, and every run is a sequence of them.  Whatever they all
keep is therefore kept by every run.
-/

namespace Avenger

/-- The world with its heap changed. -/
def World.mapHeap (world : World) (change : Heap → Heap) : World :=
  { world with heap := change world.heap }

section

variable (world : World) (change : Heap → Heap)

@[simp] theorem World.mapHeap_heap : (world.mapHeap change).heap = change world.heap := rfl

@[simp] theorem World.mapHeap_output : (world.mapHeap change).output = world.output := rfl

end

@[simp] theorem World.endScope_output (world : World) (scope : ScopeId) (routines : Nat) :
    (world.endScope scope routines).output = world.output := by
  unfold World.endScope
  split <;> rfl

/-- One change that a run can make to the world. -/
inductive World.Change : World → World → Prop where
  | print (world : World) (line : String) :
      Change world { world with output := world.output.push line }
  | clock (world : World) :
      Change world { world with clockReadings := world.clockReadings + 1 }
  | chance (world : World) :
      Change world { world with chanceReadings := world.chanceReadings + 1 }
  | bind (world : World) (scope : ScopeId) (binding : Binding) :
      Change world (world.mapHeap (·.bind scope binding))
  | write (world : World) (owner : ScopeId) (name : String) (value : Value) :
      Change world (world.mapHeap (·.write owner name value))
  | clear (world : World) (scope : ScopeId) :
      Change world (world.mapHeap (·.clear scope))
  | element (world : World) (id : TeamId) (position : Nat) (value : Value) :
      Change world (world.mapHeap (·.setElement id position value))
  | scope (world : World) (scope : Scope) :
      Change world (world.mapHeap (·.addScope scope))
  | team (world : World) (team : Team) :
      Change world (world.mapHeap (·.addTeam team))
  | routine (world : World) (routine : Routine) :
      Change world (world.mapHeap (·.addRoutine routine))

/-- A world that changes lead to. -/
abbrev World.Leads : World → World → Prop := Relation.ReflTransGen World.Change

namespace Eval

/-- The world that a run has left behind, however it ended. -/
def last {α : Type} : EStateM.Result Stop World α → World
  | .ok _ world => world
  | .error _ world => world

/-- A run that changes the world step by step. -/
def Gradual {α : Type} (run : Eval α) : Prop :=
  ∀ world, World.Leads world (last (run world))

variable {α β : Type}

theorem bind_of_ok {run : Eval α} {next : α → Eval β} {world later : World} {result : α}
    (ended : run world = .ok result later) : (run >>= next) world = next result later := by
  show EStateM.bind run next world = _
  simp only [EStateM.bind, ended]

theorem bind_of_error {run : Eval α} {next : α → Eval β} {world later : World}
    {stop : Stop} (ended : run world = .error stop later) :
    (run >>= next) world = .error stop later := by
  show EStateM.bind run next world = _
  simp only [EStateM.bind, ended]

theorem last_bind (run : Eval α) (next : α → Eval β) (world : World) :
    last ((run >>= next) world) =
      match run world with
      | .ok result later => last (next result later)
      | .error _ later => later := by
  cases outcome : run world with
  | ok result later => rw [bind_of_ok outcome]
  | error stop later =>
      rw [bind_of_error outcome]
      rfl

/-- Labelling a failure with a line does not change the world. -/
@[simp] theorem last_atLine (line : Nat) (run : Eval α) (world : World) :
    last (Eval.atLine line run world) = last (run world) := by
  unfold Eval.atLine
  rcases run world with ⟨result, later⟩ | ⟨⟨error⟩ | _, later⟩ <;> rfl

theorem assign_apply (scope : ScopeId) (name : String) (value : Value) (world : World) :
    Eval.assign scope name value world =
      match world.heap.assignable scope name with
      | .ok owner => .ok value (world.mapHeap (·.write owner name value))
      | .error fault => .error (.error ⟨fault, none⟩) world := by
  show (Eval.ofExcept (world.heap.assignable scope name) >>= _) world = _
  cases world.heap.assignable scope name <;> rfl

theorem reserve_apply (scope : ScopeId) (name : String) (world : World) :
    Eval.reserve scope name world =
      if world.heap.binds scope name then .error (.error ⟨.duplicate name, none⟩) world
      else .ok () world := by
  show (if world.heap.binds scope name then Eval.fail (.duplicate name)
    else pure () : Eval Unit) world = _
  split <;> rfl

theorem declare_apply (scope : ScopeId) (name : String) (value : Value)
    (constant : Bool) (world : World) :
    Eval.declare scope name value constant world =
      if world.heap.binds scope name then .error (.error ⟨.duplicate name, none⟩) world
      else .ok value (world.mapHeap (·.bind scope ⟨name, value, constant⟩)) := by
  have reserved := reserve_apply scope name world
  split at reserved
  · next bound => rw [if_pos bound, Eval.declare, bind_of_error reserved]
  · next free =>
      rw [if_neg free, Eval.declare, bind_of_ok reserved]
      rfl

theorem inScope_of_ok {make : Heap → Scope} {run : ScopeId → Eval α} {world later : World}
    {result : α}
    (ended : run world.heap.nextScope (world.mapHeap (·.addScope (make world.heap))) =
      .ok result later) :
    Eval.inScope make run world =
      .ok result (later.endScope world.heap.nextScope world.heap.routines.size) := by
  unfold World.mapHeap at ended
  simp only [Eval.inScope, ended]

theorem inScope_of_error {make : Heap → Scope} {run : ScopeId → Eval α}
    {world later : World} {stop : Stop}
    (ended : run world.heap.nextScope (world.mapHeap (·.addScope (make world.heap))) =
      .error stop later) :
    Eval.inScope make run world =
      .error stop (later.endScope world.heap.nextScope world.heap.routines.size) := by
  unfold World.mapHeap at ended
  simp only [Eval.inScope, ended]

/-- A run in a new scope leaves the world behind in which that scope has ended. -/
theorem last_inScope (make : Heap → Scope) (run : ScopeId → Eval α) (world : World) :
    last (Eval.inScope make run world) =
      (last (run world.heap.nextScope (world.mapHeap (·.addScope (make world.heap))))).endScope
        world.heap.nextScope world.heap.routines.size := by
  cases outcome : run world.heap.nextScope (world.mapHeap (·.addScope (make world.heap))) with
  | ok result later =>
      rw [inScope_of_ok outcome]
      rfl
  | error stop later =>
      rw [inScope_of_error outcome]
      rfl

theorem writeElement_apply (id : TeamId) (index value : Value) (world : World) :
    Eval.writeElement id index value world =
      match index.position .team (world.heap.elements id).size with
      | .ok position => .ok value (world.mapHeap (·.setElement id position value))
      | .error fault => .error (.error ⟨fault, none⟩) world := by
  show (Eval.ofExcept (index.position .team (world.heap.elements id).size) >>= _) world = _
  cases index.position .team (world.heap.elements id).size <;> rfl

/-- A call finds its function and makes a scope before anything else. -/
theorem callRoutine_apply (run : Routine → ScopeId → Eval Flow) (id : RoutineId)
    (arguments : List Value) (caller : ScopeId) (world : World) :
    callRoutine run id arguments caller world =
      match world.heap.routine? id with
      | none => .error (.error ⟨.notCallable .routine, none⟩) world
      | some routine =>
          match world.heap.callScope routine arguments caller with
          | .error fault => .error (.error ⟨fault, none⟩) world
          | .ok scope => (do
              let flow ← inScope (fun _ => scope) (run routine)
              match flow with
              | .snap value => return value
              | _ => return .null : Eval Value) world := by
  have search : readHeap (·.routine? id) world = .ok (world.heap.routine? id) world := rfl
  refine (bind_of_ok search).trans ?_
  cases world.heap.routine? id with
  | none => rfl
  | some routine =>
      have opening : readHeap (·.callScope routine arguments caller) world =
          .ok (world.heap.callScope routine arguments caller) world := rfl
      refine (bind_of_ok opening).trans ?_
      dsimp only
      cases world.heap.callScope routine arguments caller <;> rfl

/-- A call that finds its function and gets a scope for it runs the body in that scope. -/
theorem last_callRoutine_of_ok {run : Routine → ScopeId → Eval Flow} {id : RoutineId}
    {arguments : List Value} {caller : ScopeId} {world : World} {routine : Routine}
    {scope : Scope} (found : world.heap.routine? id = some routine)
    (made : world.heap.callScope routine arguments caller = .ok scope) :
    last (callRoutine run id arguments caller world) =
      last (inScope (fun _ => scope) (run routine) world) := by
  rw [callRoutine_apply, found]
  dsimp only
  rw [made]
  dsimp only
  rw [last_bind]
  rcases inScope (fun _ => scope) (run routine) world with ⟨flow, later⟩ | ⟨stop, later⟩
  · cases flow <;> rfl
  · rfl

/-- Any other call changes nothing. -/
theorem last_callRoutine_of_refused {run : Routine → ScopeId → Eval Flow} {id : RoutineId}
    {arguments : List Value} {caller : ScopeId} {world : World}
    (refused : ∀ routine scope, world.heap.routine? id = some routine →
      world.heap.callScope routine arguments caller ≠ .ok scope) :
    last (callRoutine run id arguments caller world) = world := by
  rw [callRoutine_apply]
  cases found : world.heap.routine? id with
  | none => rfl
  | some routine =>
      dsimp only
      cases made : world.heap.callScope routine arguments caller with
      | error fault => rfl
      | ok scope => exact absurd made (refused routine scope found)

/-- A call gets a scope or is refused. -/
theorem call_cases (heap : Heap) (id : RoutineId) (arguments : List Value) (caller : ScopeId) :
    (∃ routine scope, heap.routine? id = some routine ∧
        heap.callScope routine arguments caller = .ok scope) ∨
      ∀ routine scope, heap.routine? id = some routine →
        heap.callScope routine arguments caller ≠ .ok scope := by
  by_cases accepted : ∃ routine scope, heap.routine? id = some routine ∧
      heap.callScope routine arguments caller = .ok scope
  · exact .inl accepted
  · exact .inr fun routine scope found made => accepted ⟨routine, scope, found, made⟩

namespace Gradual

@[simp] theorem pure (result : α) : Gradual (Pure.pure result : Eval α) :=
  fun _ => .refl

@[simp] theorem fail (fault : Fault) : Gradual (Eval.fail fault : Eval α) :=
  fun _ => .refl

@[simp] theorem outOfBudget : Gradual (Eval.outOfBudget : Eval α) :=
  fun _ => .refl

@[simp] theorem readHeap (read : Heap → α) : Gradual (Eval.readHeap read) :=
  fun _ => .refl

@[simp] theorem ofExcept (result : Except Fault α) : Gradual (Eval.ofExcept result) := by
  cases result with
  | ok result => exact pure result
  | error fault => exact fail fault

@[simp] theorem bind {run : Eval α} {next : α → Eval β} (first : Gradual run)
    (second : ∀ result, Gradual (next result)) : Gradual (run >>= next) := by
  intro world
  have reached := first world
  rw [last_bind]
  cases outcome : run world with
  | ok result later =>
      rw [outcome] at reached
      exact reached.trans (second result later)
  | error stop later =>
      rw [outcome] at reached
      exact reached

@[simp] theorem map {run : Eval α} (read : α → β) (gradual : Gradual run) :
    Gradual (read <$> run) := by
  rw [← bind_pure_comp]
  exact gradual.bind fun result => pure (read result)

theorem single {run : Eval α} (step : ∀ world, World.Change world (last (run world))) :
    Gradual run :=
  fun world => .single (step world)

@[simp] theorem print (line : String) : Gradual (Eval.print line) :=
  single fun world => .print world line

@[simp] theorem readClock : Gradual Eval.readClock :=
  single fun world => .clock world

@[simp] theorem readChance : Gradual Eval.readChance :=
  single fun world => .chance world

@[simp] theorem newTeam (team : Team) : Gradual (Eval.newTeam team) :=
  single fun world => .team world team

@[simp] theorem newRoutine (routine : Routine) : Gradual (Eval.newRoutine routine) :=
  single fun world => .routine world routine

theorem changeHeap {change : Heap → Heap}
    (step : ∀ world : World,
      World.Change world (world.mapHeap change)) :
    Gradual (Eval.changeHeap change) :=
  single step

@[simp] theorem atLine {run : Eval α} (line : Nat) (gradual : Gradual run) :
    Gradual (Eval.atLine line run) := by
  intro world
  rw [last_atLine]
  exact gradual world

theorem endScope (world : World) (scope : ScopeId) (routines : Nat) :
    World.Leads world (world.endScope scope routines) := by
  unfold World.endScope
  split
  · exact .single (.clear world scope)
  · exact .refl

@[simp] theorem inScope {make : Heap → Scope} {run : ScopeId → Eval α}
    (gradual : ∀ scope, Gradual (run scope)) : Gradual (Eval.inScope make run) := by
  intro world
  have entered : World.Leads world (world.mapHeap (·.addScope (make world.heap))) :=
    .single (.scope world _)
  rw [last_inScope]
  exact (entered.trans (gradual _ _)).trans (endScope _ _ _)

@[simp] theorem inChild {run : ScopeId → Eval α} (parent : ScopeId)
    (gradual : ∀ scope, Gradual (run scope)) : Gradual (Eval.inChild parent run) :=
  inScope gradual

@[simp] theorem lookup (scope : ScopeId) (name : String) :
    Gradual (Eval.lookup scope name) := by
  simp [Eval.lookup]

@[simp] theorem reserve (scope : ScopeId) (name : String) :
    Gradual (Eval.reserve scope name) := by
  apply bind (readHeap _)
  intro bound
  cases bound <;> simp

@[simp] theorem declare (scope : ScopeId) (name : String) (value : Value)
    (constant : Bool) : Gradual (Eval.declare scope name value constant) := by
  apply bind (reserve scope name)
  intro _
  apply bind (changeHeap fun world => .bind world scope ⟨name, value, constant⟩)
  simp

@[simp] theorem assign (scope : ScopeId) (name : String) (value : Value) :
    Gradual (Eval.assign scope name value) := by
  apply bind (readHeap _)
  intro assignable
  apply bind (ofExcept assignable)
  intro owner
  apply bind (changeHeap fun world => .write world owner name value)
  simp

@[simp] theorem writeElement (id : TeamId) (index value : Value) :
    Gradual (Eval.writeElement id index value) := by
  apply bind (readHeap _)
  intro size
  apply bind (ofExcept _)
  intro position
  apply bind (changeHeap fun world => .element world id position value)
  simp

@[simp] theorem writeCharacter (scope : ScopeId) (name text : String)
    (index value : Value) :
    Gradual (Eval.writeCharacter scope name text index value) := by
  apply bind (readHeap _)
  intro spliced
  apply bind (ofExcept spliced)
  simp

theorem callRoutine {run : Routine → ScopeId → Eval Flow}
    (gradual : ∀ routine scope, Gradual (run routine scope)) (id : RoutineId)
    (arguments : List Value) (caller : ScopeId) :
    Gradual (Eval.callRoutine run id arguments caller) := by
  intro world
  rcases call_cases world.heap id arguments caller with ⟨routine, scope, found, made⟩ | refused
  · rw [last_callRoutine_of_ok found made]
    exact inScope (gradual routine) world
  · rw [last_callRoutine_of_refused refused]

/-- Every run of a program changes the world step by step. -/
theorem compositional : Compositional (fun _ => True) fun _ run => Gradual run where
  pure := pure
  stop _ _ := fun _ => .refl
  bind := bind
  readHeap _ := readHeap _
  print := print
  readClock := readClock
  readChance := readChance
  atLine := atLine
  declare name value constant _ := declare _ name value constant
  assign := assign _
  writeElement := writeElement
  newTeam := newTeam
  newRoutine routine _ := newRoutine routine
  inBlock _ _ inside := inScope fun inner => inside inner trivial
  call id arguments inside :=
    callRoutine (fun routine inner => inside routine inner trivial) id arguments _

end Gradual

end Eval

namespace Loop

theorem conditional_gradual {limit : Nat} {test : Eval Bool} {turn : Eval Flow}
    (tests : test.Gradual) (turns : turn.Gradual) (left : Nat) :
    (conditional limit test turn left).Gradual :=
  @Eval.ExpressionLaws.conditional _ ⟨0⟩ Eval.Gradual.compositional.toExpressionLaws _ _ _ tests turns left

theorem counted_gradual {limit : Nat} {range : Range} {turn : Float → Eval Flow}
    (turns : ∀ count, (turn count).Gradual) (left : Nat) (count : Float) :
    (counted limit range turn left count).Gradual :=
  @Eval.ExpressionLaws.counted _ ⟨0⟩ Eval.Gradual.compositional.toExpressionLaws _ _ _ turns left count

end Loop

@[simp] theorem Native.printAll_gradual (values : List Value) : (printAll values).Gradual :=
  @Eval.ExpressionLaws.printAll _ ⟨0⟩ Eval.Gradual.compositional.toExpressionLaws values

section Evaluation

variable {invoke : Invoke} (calls : ∀ id arguments scope, (invoke id arguments scope).Gradual)
include calls

theorem Value.call_gradual (callee : Value) (arguments : List Value) (scope : ScopeId) :
    (callee.call invoke arguments scope).Gradual :=
  Eval.Gradual.compositional.value calls callee arguments

theorem Expr.eval_gradual (scope : ScopeId) (expression : Expr) :
    (expression.eval invoke scope).Gradual :=
  Eval.Gradual.compositional.expression calls expression

theorem Expr.evalList_gradual (scope : ScopeId) (expressions : List Expr) :
    (Expr.evalList invoke scope expressions).Gradual :=
  Eval.Gradual.compositional.expressions calls expressions

theorem Expr.test_gradual (construct : Construct) (scope : ScopeId) (condition : Expr) :
    (condition.test invoke construct scope).Gradual :=
  Eval.Gradual.compositional.test calls construct condition

theorem Expr.rangePart_gradual (part : RangePart) (scope : ScopeId) (expression : Expr) :
    (expression.rangePart invoke part scope).Gradual :=
  Eval.Gradual.compositional.rangePart calls part expression

theorem Expr.stepPart_gradual (scope : ScopeId) (step : Option Expr) :
    (Expr.stepPart invoke scope step).Gradual :=
  Eval.Gradual.compositional.stepPart calls step

theorem Stmt.execList_gradual (statements : List Stmt) (scope : ScopeId) (last : Value) :
    (Stmt.execList invoke statements scope last).Gradual :=
  Eval.Gradual.compositional.statements calls statements last trivial

theorem Clause.execFirst_gradual (clauses : List Clause) (scope : ScopeId)
    {otherwise : Eval Flow} (rest : otherwise.Gradual) :
    (Clause.execFirst invoke clauses scope otherwise).Gradual :=
  Eval.Gradual.compositional.firstClause calls clauses rest

theorem Clause.execMatching_gradual (value : Value) (clauses : List Clause) (scope : ScopeId)
    {fallback : Eval Flow} (rest : fallback.Gradual) :
    (Clause.execMatching invoke value clauses scope fallback).Gradual :=
  Eval.Gradual.compositional.matchingClause calls value clauses trivial rest

end Evaluation

/-- A call changes the world step by step, whatever its budget. -/
theorem invokeWithin_gradual (budget : Nat) (id : RoutineId) (arguments : List Value)
    (caller : ScopeId) : (invokeWithin budget id arguments caller).Gradual :=
  Eval.Gradual.compositional.invokeWithin budget id arguments

/-- Changes keep every line that has been printed. -/
theorem World.Leads.keeps_output {world later : World} (leads : World.Leads world later) :
    world.output.toList <+: later.output.toList := by
  induction leads with
  | refl => exact List.prefix_rfl
  | tail _ change induction =>
      refine induction.trans ?_
      cases change <;> simp

end Avenger
