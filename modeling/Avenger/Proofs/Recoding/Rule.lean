import Avenger.Proofs.Change
import Avenger.Proofs.Heap

/-!
# Programs written in another way

A recoding replaces the lines of statements and the lists of statements everywhere, in the
program and in the functions of the heap.  Two runs mirror each other if the recoded one, from
the recoded world, ends as the other one does, recoded.  All ways to combine runs keep this.
-/

namespace Avenger

/-- What a statement does leaves the list that it stands in. -/
def Action.leaves : Action → Bool
  | .snap _ | .endGame => true
  | _ => false

/-- A `snap` or an `endGame`. -/
def Stmt.leaves (statement : Stmt) : Bool := statement.action.leaves

/-- The clause with its body changed. -/
def Clause.mapBody (change : List Stmt → List Stmt) : Clause → Clause
  | .mk test body => .mk test (change body)

/-- What a statement does, with the statements and lists in it changed. -/
def Action.mapParts (statement : Stmt → Stmt) (statements : List Stmt → List Stmt) :
    Action → Action
  | .branch condition body alternatives otherwise =>
      .branch condition (statements body) (alternatives.map (·.mapBody statements))
        (otherwise.map statements)
  | .loopWhile condition body => .loopWhile condition (statements body)
  | .loopRange iterator start stop step body =>
      .loopRange iterator start stop step (statements body)
  | .loopFor header condition modification body =>
      .loopFor (statement header) condition modification (statements body)
  | .multiverse discriminant cases fallback =>
      .multiverse discriminant (cases.map (·.mapBody statements)) (statements fallback)
  | .assemble name parameters body => .assemble name parameters (statements body)
  | .expression value => .expression value
  | .declare name constant value => .declare name constant value
  | .team name size values => .team name size values
  | .snap value => .snap value
  | .endGame => .endGame

/-- Another way to write lines, statements and lists of them. -/
structure Recoding where
  line : Nat → Nat
  statement : Stmt → Stmt
  statements : List Stmt → List Stmt

/-- A recoding that works part by part.  Of a list it may leave out what follows a `snap` or an
`endGame`. -/
structure Recoding.Lawful (recoding : Recoding) : Prop where
  labelled : ∀ (line : Nat) (action : Action), recoding.statement (.mk line action) =
    .mk (recoding.line line) (action.mapParts recoding.statement recoding.statements)
  nil : recoding.statements [] = []
  cons : ∀ (statement : Stmt) (rest : List Stmt),
    recoding.statements (statement :: rest) =
        recoding.statement statement :: recoding.statements rest ∨
      statement.leaves = true ∧
        recoding.statements (statement :: rest) = [recoding.statement statement]

/-- The error with its line replaced. -/
def RuntimeError.mapLine (error : RuntimeError) (lines : Nat → Nat) : RuntimeError :=
  { error with line := error.line.map lines }

/-- A stop with the line of its error replaced. -/
def Eval.Stop.mapLine (stop : Eval.Stop) (lines : Nat → Nat) : Eval.Stop :=
  match stop with
  | .error failure => .error (failure.mapLine lines)
  | .outOfBudget => .outOfBudget

/-- The end of a run with the line of its error and the bodies of functions replaced. -/
def Eval.mapEnd {α : Type} (lines : Nat → Nat) (bodies : List Stmt → List Stmt) :
    EStateM.Result Eval.Stop World α → EStateM.Result Eval.Stop World α
  | .ok result world => .ok result (world.mapBodies bodies)
  | .error stop world => .error (stop.mapLine lines) (world.mapBodies bodies)

/-- The second run does in a recoded world what the first does, recoded. -/
def Eval.Mirrors (recoding : Recoding) {α : Type} (run recoded : Eval α) : Prop :=
  ∀ world : World, recoded (world.mapBodies recoding.statements) =
    mapEnd recoding.line recoding.statements (run world)

namespace Eval.Mirrors

variable {recoding : Recoding} {α β : Type} {run run' : Eval α}

theorem pure (result : α) : Mirrors recoding (Pure.pure result) (Pure.pure result) :=
  fun _ => rfl

theorem stop (stop : Stop) (unlabelled : ∀ error, stop = .error error → error.line = none) :
    Mirrors recoding (throw stop : Eval α) (throw stop) := by
  intro world
  cases stop with
  | outOfBudget => rfl
  | error error =>
      obtain ⟨fault, line⟩ := error
      obtain rfl : line = none := unlabelled _ rfl
      rfl

theorem fail (fault : Fault) : Mirrors recoding (Eval.fail fault : Eval α) (Eval.fail fault) :=
  fun _ => rfl

theorem bind {next next' : α → Eval β} (first : Mirrors recoding run run')
    (second : ∀ result, Mirrors recoding (next result) (next' result)) :
    Mirrors recoding (run >>= next) (run' >>= next') := by
  intro world
  have same := first world
  cases ended : run world with
  | ok result later =>
      rw [ended] at same
      rw [bind_of_ok ended, bind_of_ok same]
      exact second result later
  | error stop later =>
      rw [ended] at same
      rw [bind_of_error ended, bind_of_error same]
      rfl

theorem readHeap {read : Heap → α} (bodiless : Heap.Bodiless read) :
    Mirrors recoding (Eval.readHeap read) (Eval.readHeap read) := by
  intro world
  show EStateM.Result.ok (read (world.heap.mapBodies recoding.statements)) _ = _
  rw [bodiless]
  rfl

theorem ofExcept (result : Except Fault α) :
    Mirrors recoding (Eval.ofExcept result) (Eval.ofExcept result) := by
  cases result with
  | ok result => exact pure result
  | error fault => exact fail fault

theorem changeHeap {change : Heap → Heap}
    (commutes : ∀ heap : Heap, change (heap.mapBodies recoding.statements) =
      (change heap).mapBodies recoding.statements) :
    Mirrors recoding (Eval.changeHeap change) (Eval.changeHeap change) := by
  intro world
  show EStateM.Result.ok () ((world.mapBodies recoding.statements).mapHeap change) = _
  rw [World.mapHeap, World.mapBodies, commutes]
  rfl

theorem assign (scope : ScopeId) (name : String) (value : Value) :
    Mirrors recoding (Eval.assign scope name value) (Eval.assign scope name value) :=
  bind (readHeap (.assignable scope name)) fun owner => bind (ofExcept owner) fun _ =>
    bind (changeHeap fun _ => rfl) fun _ => pure value

theorem writeElement (id : TeamId) (index value : Value) :
    Mirrors recoding (Eval.writeElement id index value) (Eval.writeElement id index value) :=
  bind (readHeap (.elementCount id)) fun _ => bind (ofExcept _) fun _ =>
    bind (changeHeap fun _ => rfl) fun _ => pure value

/-- What expressions do is the same in a recoded world. -/
theorem expressionLaws : ExpressionLaws fun _ run => Mirrors recoding run run where
  pure := pure
  stop := stop
  bind := bind
  readHeap := readHeap
  print _ := fun _ => rfl
  readClock := fun _ => rfl
  readChance := fun _ => rfl
  assign := assign _
  writeElement := writeElement

theorem declare (scope : ScopeId) (name : String) (value : Value) (constant : Bool) :
    Mirrors recoding (Eval.declare scope name value constant)
      (Eval.declare scope name value constant) :=
  bind (expressionLaws.reserve name) fun _ => bind (changeHeap fun _ => rfl) fun _ => pure value

theorem newTeam (team : Team) : Mirrors recoding (Eval.newTeam team) (Eval.newTeam team) :=
  fun _ => rfl

theorem newRoutine (routine : Routine) :
    Mirrors recoding (Eval.newRoutine routine)
      (Eval.newRoutine (routine.mapBody recoding.statements)) := by
  intro world
  show EStateM.Result.ok
    (Value.routine (world.heap.mapBodies recoding.statements).nextRoutine)
    ((world.mapBodies recoding.statements).mapHeap
      (·.addRoutine (routine.mapBody recoding.statements))) = _
  have added := world.heap.mapBodies_addRoutine recoding.statements routine
  rw [World.mapHeap, World.mapBodies, ← added, Heap.nextRoutine, Heap.mapBodies_routines_size]
  rfl

/-- The line that a failure is labelled with is replaced. -/
theorem atLine (line : Nat) (inside : Mirrors recoding run run') :
    Mirrors recoding (Eval.atLine line run) (Eval.atLine (recoding.line line) run') := by
  intro world
  have same := inside world
  unfold Eval.atLine
  rw [same]
  rcases run world with ⟨result, later⟩ | ⟨⟨fault, stamped⟩ | _, later⟩
  · rfl
  · cases stamped <;> rfl
  · rfl

theorem endScope (bodies : List Stmt → List Stmt) (world : World) (scope : ScopeId)
    (routines : Nat) :
    (world.mapBodies bodies).endScope scope routines =
      (world.endScope scope routines).mapBodies bodies := by
  have size : (world.mapBodies bodies).heap.routines.size = world.heap.routines.size :=
    world.heap.mapBodies_routines_size bodies
  have kept : (world.mapBodies bodies).retention = world.retention := rfl
  rw [World.endScope, World.endScope, size, kept, apply_ite (World.mapBodies · bodies)]
  rfl

theorem inScope {make : Heap → Scope} (bodiless : Heap.Bodiless make)
    {inner inner' : ScopeId → Eval α}
    (inside : ∀ scope, Mirrors recoding (inner scope) (inner' scope)) :
    Mirrors recoding (Eval.inScope make inner) (Eval.inScope make inner') := by
  intro world
  have size : (world.mapBodies recoding.statements).heap.routines.size =
      world.heap.routines.size := world.heap.mapBodies_routines_size _
  have same := inside world.heap.nextScope (world.mapHeap (·.addScope (make world.heap)))
  have opened : (world.mapHeap (·.addScope (make world.heap))).mapBodies recoding.statements =
      (world.mapBodies recoding.statements).mapHeap
        (·.addScope (make (world.mapBodies recoding.statements).heap)) := by
    have made : make (world.mapBodies recoding.statements).heap = make world.heap :=
      bodiless world.heap recoding.statements
    rw [made]
    rfl
  rw [opened] at same
  cases ended : inner world.heap.nextScope (world.mapHeap (·.addScope (make world.heap))) with
  | ok result later =>
      rw [ended] at same
      rw [inScope_of_ok ended, inScope_of_ok same, size, mapEnd, ← endScope]
      rfl
  | error stop later =>
      rw [ended] at same
      rw [inScope_of_error ended, inScope_of_error same, size, mapEnd, ← endScope]
      rfl

theorem inChild (parent : ScopeId) {inner inner' : ScopeId → Eval α}
    (inside : ∀ scope, Mirrors recoding (inner scope) (inner' scope)) :
    Mirrors recoding (Eval.inChild parent inner) (Eval.inChild parent inner') :=
  inScope (fun _ _ => rfl) inside

theorem callRoutine {body body' : Routine → ScopeId → Eval Flow}
    (inside : ∀ routine scope, Mirrors recoding (body routine scope)
      (body' (routine.mapBody recoding.statements) scope))
    (id : RoutineId) (arguments : List Value) (caller : ScopeId) :
    Mirrors recoding (Eval.callRoutine body id arguments caller)
      (Eval.callRoutine body' id arguments caller) := by
  intro world
  have found : (world.mapBodies recoding.statements).heap.routine? id =
      (world.heap.routine? id).map (·.mapBody recoding.statements) :=
    world.heap.routine?_mapBodies _ id
  rw [callRoutine_apply, callRoutine_apply, found]
  cases world.heap.routine? id with
  | none => rfl
  | some routine =>
      dsimp only [Option.map_some]
      have made : (world.mapBodies recoding.statements).heap.callScope
          (routine.mapBody recoding.statements) arguments caller =
            world.heap.callScope routine arguments caller :=
        world.heap.callScope_mapBodies _ routine arguments caller
      rw [made]
      cases world.heap.callScope routine arguments caller with
      | error fault => rfl
      | ok scope =>
          refine bind (inScope (fun _ _ => rfl) (inside routine)) (fun flow => ?_) world
          cases flow <;> exact pure _

end Eval.Mirrors

end Avenger
