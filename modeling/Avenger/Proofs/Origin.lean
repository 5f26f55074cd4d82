import Avenger.Proofs.Labels

/-!
# Where an error comes from

A run is made of other runs: the first or the second of two in sequence, the one that is labelled
with a line, the one inside a new scope.  A failure of a part that has a line goes through to the
whole run unchanged.  Conversely, a failure with a line has an innermost statement: one that is
run on the way and whose own action failed without a line.
-/

namespace Avenger

namespace Eval

/-- The run comes, from the world on, to running `inner` from `start`. -/
inductive Within {α : Type} (inner : Eval α) (start : World) :
    {β : Type} → Eval β → World → Prop where
  | here : Within inner start inner start
  | first {β γ : Type} {run : Eval β} {next : β → Eval γ} {world : World}
      (inside : Within inner start run world) : Within inner start (run >>= next) world
  | second {β γ : Type} {run : Eval β} {next : β → Eval γ} {world later : World} {result : β}
      (ended : run world = .ok result later) (inside : Within inner start (next result) later) :
      Within inner start (run >>= next) world
  | atLine {β : Type} {run : Eval β} {world : World} (line : Nat)
      (inside : Within inner start run world) : Within inner start (Eval.atLine line run) world
  | inScope {β : Type} {make : Heap → Scope} {run : ScopeId → Eval β} {world : World}
      (inside : Within inner start (run world.heap.nextScope)
        (world.mapHeap (·.addScope (make world.heap)))) :
      Within inner start (Eval.inScope make run) world

/-- A label that is there stays. -/
theorem atLine_of_labelled {α : Type} {run : Eval α} {world later : World} {error : RuntimeError}
    (failed : run world = .error (.error error) later) (labelled : error.line.isSome)
    (line : Nat) : Eval.atLine line run world = .error (.error error) later := by
  obtain ⟨fault, stamped⟩ := error
  cases stamped with
  | none => cases labelled
  | some stamped => exact atLine_of_error line failed

/-- No statement, block, loop or call around a part of a run changes the line of its failure. -/
theorem Within.fails {α β : Type} {inner : Eval α} {run : Eval β} {start world later : World}
    {error : RuntimeError} (within : Within inner start run world)
    (failed : inner start = .error (.error error) later) (labelled : error.line.isSome) :
    ∃ last, run world = .error (.error error) last := by
  induction within with
  | here => exact ⟨later, failed⟩
  | first _ induction =>
      obtain ⟨last, ended⟩ := induction
      exact ⟨last, bind_of_error ended⟩
  | second ended _ induction =>
      obtain ⟨last, failed⟩ := induction
      exact ⟨last, (bind_of_ok ended).trans failed⟩
  | atLine line _ induction =>
      obtain ⟨last, ended⟩ := induction
      exact ⟨last, atLine_of_labelled ended labelled line⟩
  | inScope _ induction =>
      obtain ⟨last, ended⟩ := induction
      exact ⟨_, inScope_of_error ended⟩

/-- A statement on the line of the error that is run on the way and whose own action failed with
the fault of the error, when no line was known yet. -/
def HasOrigin {α : Type} (run : Eval α) (world : World) (error : RuntimeError) : Prop :=
  ∃ (statement : Stmt) (invoke : Invoke) (scope : ScopeId) (start later : World),
    Within (statement.exec invoke scope) start run world ∧
      statement.action.exec invoke scope start = .error (.error ⟨error.fault, none⟩) later ∧
      error.line = some statement.line

/-- The errors of a run have no line or an innermost statement. -/
def Traced {α : Type} (run : Eval α) : Prop :=
  ∀ (world later : World) (error : RuntimeError), run world = .error (.error error) later →
    error.line = none ∨ HasOrigin run world error

namespace Traced

variable {α β : Type} {run : Eval α}

/-- A run whose errors have no line. -/
theorem of_unlabelled (unlabelled : ∀ (world later : World) (error : RuntimeError),
    run world = .error (.error error) later → error.line = none) : Traced run :=
  fun world later error failed => .inl (unlabelled world later error failed)

theorem of_ok (ends : ∀ world, ∃ result later, run world = .ok result later) : Traced run := by
  intro world later error failed
  obtain ⟨result, last, ended⟩ := ends world
  cases ended.symm.trans failed

theorem pure (result : α) : Traced (Pure.pure result : Eval α) :=
  of_ok fun _ => ⟨_, _, rfl⟩

theorem stop (stop : Stop) (unlabelled : ∀ error, stop = .error error → error.line = none) :
    Traced (throw stop : Eval α) := by
  refine of_unlabelled fun world later error failed => ?_
  cases failed
  exact unlabelled _ rfl

theorem readHeap (read : Heap → α) : Traced (Eval.readHeap read) :=
  of_ok fun _ => ⟨_, _, rfl⟩

theorem fail (fault : Fault) : Traced (Eval.fail fault : Eval α) := by
  refine stop _ fun error raised => ?_
  cases raised
  rfl

theorem ofExcept (result : Except Fault α) : Traced (Eval.ofExcept result) := by
  cases result with
  | ok result => exact pure result
  | error fault => exact fail fault

theorem bind {next : α → Eval β} (first : Traced run) (second : ∀ result, Traced (next result)) :
    Traced (run >>= next) := by
  intro world later error failed
  cases ended : run world with
  | ok result between =>
      rw [bind_of_ok ended] at failed
      refine (second result between later error failed).imp_right ?_
      rintro ⟨statement, invoke, scope, start, last, within, raised, line⟩
      exact ⟨statement, invoke, scope, start, last, .second ended within, raised, line⟩
  | error stop between =>
      rw [bind_of_error ended] at failed
      cases failed
      refine (first world later error ended).imp_right ?_
      rintro ⟨statement, invoke, scope, start, last, within, raised, line⟩
      exact ⟨statement, invoke, scope, start, last, .first within, raised, line⟩

/-- The innermost statement is this one, or that of an error which its action passes on. -/
theorem atLine {invoke : Invoke} {action : Action} {scope : ScopeId} (line : Nat)
    (inside : Traced (action.exec invoke scope)) :
    Traced (Eval.atLine line (action.exec invoke scope)) := by
  intro world later error failed
  cases ended : action.exec invoke scope world with
  | ok flow between => cases (atLine_of_ok line ended).symm.trans failed
  | error stop between =>
      cases stop with
      | outOfBudget => cases (atLine_of_error line ended).symm.trans failed
      | error raised =>
          rcases inside world between raised ended with
            unlabelled | ⟨statement, invoke, scope, start, last, within, raising, onLine⟩
          · obtain ⟨fault, stamped⟩ := raised
            obtain rfl : stamped = none := unlabelled
            cases (atLine_of_error line ended).symm.trans failed
            have itself : Within ((Stmt.mk line action).exec invoke scope) world
                (Eval.atLine line (action.exec invoke scope)) world := by
              rw [Stmt.exec]
              exact .here
            exact .inr ⟨.mk line action, invoke, scope, world, later, itself, ended, rfl⟩
          · have labelled : raised.line.isSome := by rw [onLine]; rfl
            rw [atLine_of_labelled ended labelled] at failed
            cases failed
            exact .inr ⟨statement, invoke, scope, start, last, .atLine line within, raising,
              onLine⟩

theorem inScope {make : Heap → Scope} {run : ScopeId → Eval α}
    (inside : ∀ scope, Traced (run scope)) : Traced (Eval.inScope make run) := by
  intro world later error failed
  cases ended : run world.heap.nextScope (world.mapHeap (·.addScope (make world.heap))) with
  | ok result between => cases (inScope_of_ok ended).symm.trans failed
  | error stop between =>
      cases (inScope_of_error ended).symm.trans failed
      refine (inside _ _ between _ ended).imp_right ?_
      rintro ⟨statement, invoke, scope, start, last, within, raised, line⟩
      exact ⟨statement, invoke, scope, start, last, .inScope within, raised, line⟩

theorem callRoutine {body : Routine → ScopeId → Eval Flow}
    (inside : ∀ routine scope, Traced (body routine scope)) (id : RoutineId)
    (arguments : List Value) (caller : ScopeId) :
    Traced (Eval.callRoutine body id arguments caller) := by
  refine bind (readHeap _) fun found => ?_
  cases found with
  | none => exact fail _
  | some routine =>
      refine bind (readHeap _) fun made => bind (ofExcept made) fun scope => ?_
      refine bind (inScope (inside routine)) fun flow => ?_
      cases flow <;> exact pure _

theorem changeHeap (change : Heap → Heap) : Traced (Eval.changeHeap change) :=
  of_ok fun _ => ⟨_, _, rfl⟩

theorem reserve (scope : ScopeId) (name : String) : Traced (Eval.reserve scope name) := by
  refine bind (readHeap _) fun bound => ?_
  cases bound with
  | true => exact fail _
  | false => exact pure _

/-- Every error of a program has no line or an innermost statement. -/
theorem compositional : Compositional (fun _ => True) fun _ run => Traced run where
  pure := pure
  stop := stop
  bind := bind
  readHeap _ := readHeap _
  print _ := of_ok fun _ => ⟨_, _, rfl⟩
  readClock := of_ok fun _ => ⟨_, _, rfl⟩
  readChance := of_ok fun _ => ⟨_, _, rfl⟩
  atLine := atLine
  declare name _ _ _ := bind (reserve _ name) fun _ => bind (changeHeap _) fun _ => pure _
  assign _ _ := bind (readHeap _) fun owner => bind (ofExcept owner) fun _ =>
    bind (changeHeap _) fun _ => pure _
  writeElement _ _ _ := bind (readHeap _) fun _ => bind (ofExcept _) fun _ =>
    bind (changeHeap _) fun _ => pure _
  newTeam _ := of_ok fun _ => ⟨_, _, rfl⟩
  newRoutine _ _ := of_ok fun _ => ⟨_, _, rfl⟩
  inBlock _ _ inside := inScope fun inner => inside inner trivial
  call id arguments inside :=
    callRoutine (fun routine inner => inside routine inner trivial) id arguments _

end Traced

/-- A run whose errors all have a line. -/
def Labelled {α : Type} (run : Eval α) : Prop :=
  ∀ (world later : World) (error : RuntimeError), run world = .error (.error error) later →
    error.line.isSome

namespace Labelled

variable {α β : Type} {run : Eval α}

theorem of_ok (ends : ∀ world, ∃ result later, run world = .ok result later) : Labelled run := by
  intro world later error failed
  obtain ⟨result, last, ended⟩ := ends world
  cases ended.symm.trans failed

theorem bind {next : α → Eval β} (first : Labelled run)
    (second : ∀ result, Labelled (next result)) : Labelled (run >>= next) := by
  intro world later error failed
  cases ended : run world with
  | ok result between =>
      rw [bind_of_ok ended] at failed
      exact second result between later error failed
  | error stop between =>
      rw [bind_of_error ended] at failed
      cases failed
      exact first world later error ended

theorem atLine (line : Nat) : Labelled (Eval.atLine line run) := by
  intro world later error failed
  cases ended : run world with
  | ok result between => cases (atLine_of_ok line ended).symm.trans failed
  | error stop between =>
      have stamped := (atLine_of_error line ended).symm.trans failed
      cases stop with
      | outOfBudget => cases stamped
      | error raised =>
          cases stamped
          rfl

theorem inScope {make : Heap → Scope} {run : ScopeId → Eval α}
    (inside : ∀ scope, Labelled (run scope)) : Labelled (Eval.inScope make run) := by
  intro world later error failed
  cases ended : run world.heap.nextScope (world.mapHeap (·.addScope (make world.heap))) with
  | ok result between => cases (inScope_of_ok ended).symm.trans failed
  | error stop between =>
      cases (inScope_of_error ended).symm.trans failed
      exact inside _ _ _ _ ended

theorem statements (invoke : Invoke) (statements : List Stmt) (scope : ScopeId) (last : Value) :
    Labelled (Stmt.execList invoke statements scope last) := by
  induction statements generalizing last with
  | nil => exact of_ok fun _ => ⟨_, _, rfl⟩
  | cons statement rest induction =>
      obtain ⟨line, action⟩ := statement
      refine bind (by rw [Stmt.exec]; exact atLine line) fun flow => ?_
      cases flow with
      | normal value => exact induction value
      | snap _ | endGame => exact of_ok fun _ => ⟨_, _, rfl⟩

theorem exec (program : Program) (scope : ScopeId) : Labelled (program.exec scope) :=
  bind (of_ok fun _ => ⟨_, _, rfl⟩) fun _ => statements _ program scope .null

theorem eval (program : Program) (scope : ScopeId) : Labelled (program.eval scope) := by
  refine bind (exec program scope) fun flow => ?_
  cases flow <;> exact of_ok fun _ => ⟨_, _, rfl⟩

end Labelled

end Eval

end Avenger
