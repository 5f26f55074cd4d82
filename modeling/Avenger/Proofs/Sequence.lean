import Avenger.Proofs.Change

/-!
# Statements one after the other

A list of statements does what its first statements do and then, if they end normally, what the
others do.  It is left by the first statement that does not end normally.
-/

namespace Avenger

theorem Eval.bind_eq_ok_iff {α β : Type} {run : Eval α} {next : α → Eval β} {world later : World}
    {result : β} :
    (run >>= next) world = .ok result later ↔
      ∃ value between, run world = .ok value between ∧ next value between = .ok result later := by
  cases ran : run world with
  | error stop between =>
      rw [bind_of_error ran]
      simp
  | ok value between =>
      rw [bind_of_ok ran]
      constructor
      · exact fun ended => ⟨value, between, rfl, ended⟩
      · rintro ⟨_, _, ⟨⟩, ended⟩
        exact ended

theorem Eval.ofExcept_eq_ok_iff {α : Type} {outcome : Except Fault α} {world later : World}
    {result : α} :
    Eval.ofExcept outcome world = .ok result later ↔ outcome = .ok result ∧ world = later := by
  cases outcome with
  | error fault => exact iff_of_false (fun ended => nomatch ended) fun ended => nomatch ended.1
  | ok value =>
      have given : Eval.ofExcept (.ok value) world = .ok value world := rfl
      rw [given, EStateM.Result.ok.injEq, Except.ok.injEq]

theorem Eval.bind_eq_error_iff {α β : Type} {run : Eval α} {next : α → Eval β}
    {world later : World} {stop : Eval.Stop} :
    (run >>= next) world = .error stop later ↔
      run world = .error stop later ∨
        ∃ value between, run world = .ok value between ∧
          next value between = .error stop later := by
  cases ran : run world with
  | error stop' between =>
      rw [bind_of_error ran]
      simp
  | ok value between =>
      rw [bind_of_ok ran]
      constructor
      · exact fun ended => .inr ⟨value, between, rfl, ended⟩
      · rintro (⟨⟨⟩⟩ | ⟨_, _, ⟨⟩, ended⟩)
        exact ended

theorem Eval.inScope_eq_ok_iff {α : Type} {make : Heap → Scope} {run : ScopeId → Eval α}
    {world later : World} {result : α} :
    inScope make run world = .ok result later ↔
      ∃ inside, run world.heap.nextScope (world.mapHeap (·.addScope (make world.heap))) =
          .ok result inside ∧
        later = inside.endScope world.heap.nextScope world.heap.routines.size := by
  cases ran : run world.heap.nextScope (world.mapHeap (·.addScope (make world.heap))) with
  | error stop inside =>
      rw [inScope_of_error ran]
      simp
  | ok value inside =>
      rw [inScope_of_ok ran]
      simp only [EStateM.Result.ok.injEq]
      constructor
      · rintro ⟨rfl, rfl⟩
        exact ⟨inside, ⟨rfl, rfl⟩, rfl⟩
      · rintro ⟨_, ⟨rfl, rfl⟩, rfl⟩
        exact ⟨rfl, rfl⟩

theorem Eval.inChild_eq_ok_iff {α : Type} {scope : ScopeId} {run : ScopeId → Eval α}
    {world later : World} {result : α} :
    inChild scope run world = .ok result later ↔
      ∃ inside, run world.heap.nextScope
            (world.mapHeap fun heap => heap.addScope (heap.childOf scope)) = .ok result inside ∧
        later = inside.endScope world.heap.nextScope world.heap.routines.size :=
  inScope_eq_ok_iff

/-- Labelling its failures with a line does not change how a run succeeds. -/
theorem Eval.atLine_eq_ok_iff {α : Type} {line : Nat} {run : Eval α} {world later : World}
    {result : α} : atLine line run world = .ok result later ↔ run world = .ok result later := by
  unfold atLine
  rcases run world with ⟨value, after⟩ | ⟨⟨error⟩ | _, after⟩ <;> simp

namespace Stmt

variable {invoke : Invoke} {scope : ScopeId} {world later : World}

theorem execList_cons (statement : Stmt) (rest : List Stmt) (last : Value) :
    Stmt.execList invoke (statement :: rest) scope last = (do
      match ← statement.exec invoke scope with
      | .normal value => Stmt.execList invoke rest scope value
      | flow => return flow) :=
  (Stmt.execList.eq_def ..).trans rfl

/-- The value before some statements does not matter to them. -/
theorem execList_of_ne_nil {statements : List Stmt} (some : statements ≠ []) (last other : Value) :
    Stmt.execList invoke statements scope last = Stmt.execList invoke statements scope other := by
  cases statements with
  | nil => exact absurd rfl some
  | cons statement rest => rw [execList_cons, execList_cons]

/-- Statements that end normally are followed by those after them. -/
theorem execList_append {first second : List Stmt} {last value : Value}
    (ran : Stmt.execList invoke first scope last world = .ok (.normal value) later) :
    Stmt.execList invoke (first ++ second) scope last world =
      Stmt.execList invoke second scope value later := by
  induction first generalizing last world with
  | nil =>
      rw [Stmt.execList] at ran
      cases ran
      rfl
  | cons statement rest induction =>
      rw [execList_cons] at ran
      obtain ⟨flow, between, ended, ran⟩ := Eval.bind_eq_ok_iff.mp ran
      rw [List.cons_append, execList_cons, Eval.bind_of_ok ended]
      cases flow with
      | normal value => exact induction ran
      | snap value | endGame => cases ran

/-- The flow with which a list is left is that of the first statement that does not end
normally. -/
theorem execList_leaves_iff {statements : List Stmt} {last : Value} {flow : Flow}
    (leaves : ∀ value, flow ≠ .normal value) :
    Stmt.execList invoke statements scope last world = .ok flow later ↔
      ∃ before statement after value between, statements = before ++ statement :: after ∧
        Stmt.execList invoke before scope last world = .ok (.normal value) between ∧
        statement.exec invoke scope between = .ok flow later := by
  constructor
  · intro ran
    induction statements generalizing last world with
    | nil =>
        rw [Stmt.execList] at ran
        cases ran
        exact absurd rfl (leaves last)
    | cons statement rest induction =>
        rw [execList_cons] at ran
        obtain ⟨flow', between, ended, ran⟩ := Eval.bind_eq_ok_iff.mp ran
        cases flow' with
        | normal value =>
            obtain ⟨before, leaving, after, value', between', rfl, first, left⟩ := induction ran
            refine ⟨statement :: before, leaving, after, value', between', rfl, ?_, left⟩
            rw [execList_cons, Eval.bind_of_ok ended]
            exact first
        | snap value | endGame =>
            cases ran
            exact ⟨[], statement, rest, last, world, rfl, by rw [Stmt.execList]; rfl, ended⟩
  · rintro ⟨before, statement, after, value, between, rfl, first, left⟩
    rw [execList_append first, execList_cons, Eval.bind_of_ok left]
    cases flow with
    | normal value => exact absurd rfl (leaves value)
    | snap value | endGame => rfl

end Stmt

end Avenger
