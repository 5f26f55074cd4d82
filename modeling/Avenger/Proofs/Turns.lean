import Avenger.Proofs.Heap
import Avenger.Proofs.Labels

/-!
# The turns of a loop

Without a guard a loop makes turns until its test does not hold or a turn leaves it, and perhaps
for ever.  The loops of programs have a guard.  If a loop would enter its body no more often than
the limit of its scope allows, the guard makes no difference.  Otherwise the loop makes as many
complete turns as the limit allows, its test holds once more, and then it fails; whatever it has
done until then stays done.
-/

namespace Avenger

namespace Eval

/-- How a run ends: with a result or a stop, and the world that it leaves behind. -/
abbrev Ending (α : Type) : Type := EStateM.Result Stop World α

namespace Ending

variable {α : Type}

/-- The same ending in a world that is changed once more. -/
def closed (ending : Ending α) (close : World → World) : Ending α :=
  match ending with
  | .ok result world => .ok result (close world)
  | .error stop world => .error stop (close world)

/-- The ending whose error is labelled with a line unless it has one. -/
def atLine (ending : Ending α) (line : Nat) : Ending α :=
  match ending with
  | .ok result world => .ok result world
  | .error stop world => .error (stop.atLine line) world

@[simp] theorem closed_id (ending : Ending α) : ending.closed id = ending := by
  cases ending <;> rfl

end Ending

theorem atLine_apply {α : Type} (line : Nat) (run : Eval α) (world : World) :
    Eval.atLine line run world = Ending.atLine (run world) line := by
  cases ended : run world with
  | ok result later => exact atLine_of_ok line ended
  | error stop later => exact atLine_of_error line ended

theorem inScope_apply {α : Type} (make : Heap → Scope) (run : ScopeId → Eval α) (world : World) :
    Eval.inScope make run world =
      Ending.closed
        (run world.heap.nextScope (world.mapHeap fun heap => heap.addScope (make heap)))
        (·.endScope world.heap.nextScope world.heap.routines.size) := by
  cases ended : run world.heap.nextScope
      (world.mapHeap fun heap => heap.addScope (make heap)) with
  | ok result later => exact inScope_of_ok ended
  | error stop later => exact inScope_of_error ended

theorem inChild_apply {α : Type} (parent : ScopeId) (run : ScopeId → Eval α) (world : World) :
    Eval.inChild parent run world =
      Ending.closed
        (run world.heap.nextScope (world.mapHeap fun heap => heap.addScope (heap.childOf parent)))
        (·.endScope world.heap.nextScope world.heap.routines.size) :=
  inScope_apply (·.childOf parent) run world

end Eval

open Eval (Ending)

namespace Loop

/-! ### Loops without a guard -/

/-- What a loop is made of: the test for another turn, the turn, and the count after a given one.
A loop that does not count has a single count. -/
structure Parts (Count : Type) where
  due : Count → Eval Bool
  turn : Count → Eval Flow
  next : Count → Count

/-- The parts of a loop with a condition. -/
def Parts.conditional (test : Eval Bool) (turn : Eval Flow) : Parts Unit :=
  { due := fun _ => test, turn := fun _ => turn, next := id }

/-- The parts of a loop through a range. -/
def Parts.counted (range : Range) (turn : Float → Eval Flow) : Parts Float :=
  { due := fun count => pure (range.contains count), turn, next := range.next }

section Courses

variable {Count : Type} (parts : Parts Count)

/-- `Passes turns count world last later`: from the count in the world on, as many turns are due
one after the other and end normally, and they come to the last count in the later world. -/
inductive Passes : Nat → Count → World → Count → World → Prop where
  | none {count : Count} {world : World} : Passes 0 count world count world
  | some {turns : Nat} {count last : Count} {world tested passed later : World} {value : Value}
      (due : parts.due count world = .ok true tested)
      (turn : parts.turn count tested = .ok (.normal value) passed)
      (rest : Passes turns (parts.next count) passed last later) :
      Passes (turns + 1) count world last later

/-- `Last count world entered ending`: where a test is due, the loop ends, and before that it
enters its body once more or not at all. -/
inductive Last (count : Count) (world : World) : Nat → Ending Flow → Prop where
  | refused {stop : Eval.Stop} {tested : World} (due : parts.due count world = .error stop tested) :
      Last count world 0 (.error stop tested)
  | finished {tested : World} (due : parts.due count world = .ok false tested) :
      Last count world 0 (.ok (.normal .null) tested)
  | failed {stop : Eval.Stop} {tested passed : World}
      (due : parts.due count world = .ok true tested)
      (turn : parts.turn count tested = .error stop passed) :
      Last count world 1 (.error stop passed)
  | ended {tested passed : World} (due : parts.due count world = .ok true tested)
      (turn : parts.turn count tested = .ok .endGame passed) :
      Last count world 1 (.ok (.normal .null) passed)
  | snapped {tested passed : World} {value : Value}
      (due : parts.due count world = .ok true tested)
      (turn : parts.turn count tested = .ok (.snap value) passed) :
      Last count world 1 (.ok (.snap value) passed)

/-- `Runs count world entered ending`: without a guard the loop enters its body as often as
`entered` says, and it ends so. -/
inductive Runs (count : Count) (world : World) : Nat → Ending Flow → Prop where
  | mk {turns more : Nat} {last : Count} {later : World} {ending : Ending Flow}
      (passes : Passes parts turns count world last later)
      (ends : Last parts last later more ending) : Runs count world (turns + more) ending

end Courses

/-! ### Loops with a guard -/

section Guarded

variable {Count : Type} {parts : Parts Count} {limit : Nat}

/-- Makes turns as long as another one is due, at most the given number of times.  The limit is
the one that is reported. -/
def guarded (limit : Nat) (parts : Parts Count) : Nat → Count → Eval Flow
  | 0, count => do
      if ← parts.due count then Eval.fail (.tooManyTurns limit) else return .normal .null
  | turns + 1, count => do
      if ← parts.due count then
        match ← parts.turn count with
        | .normal _ => guarded limit parts turns (parts.next count)
        | .endGame => return .normal .null
        | .snap value => return .snap value
      else return .normal .null

theorem conditional_eq (limit : Nat) (test : Eval Bool) (turn : Eval Flow) (turns : Nat) :
    conditional limit test turn turns = guarded limit (.conditional test turn) turns () := by
  induction turns with
  | zero => rfl
  | succ turns induction =>
      rw [conditional, guarded]
      refine bind_congr fun goes => ?_
      cases goes with
      | false => rfl
      | true =>
          refine bind_congr fun flow => ?_
          cases flow with
          | normal _ => exact induction
          | snap _ | endGame => rfl

theorem counted_eq (limit : Nat) (range : Range) (turn : Float → Eval Flow) (turns : Nat)
    (count : Float) :
    counted limit range turn turns count = guarded limit (.counted range turn) turns count := by
  induction turns generalizing count with
  | zero => rfl
  | succ turns induction =>
      rw [counted, guarded, Parts.counted, pure_bind]
      split
      · refine bind_congr fun flow => ?_
        cases flow with
        | normal _ => exact induction _
        | snap _ | endGame => rfl
      · rfl

section Turns

variable {turns : Nat} {count : Count} {world tested passed : World}

theorem guarded_of_refused {stop : Eval.Stop} (due : parts.due count world = .error stop tested) :
    guarded limit parts turns count world = .error stop tested := by
  cases turns <;> exact Eval.bind_of_error due

theorem guarded_of_finished (due : parts.due count world = .ok false tested) :
    guarded limit parts turns count world = .ok (.normal .null) tested := by
  cases turns <;> exact Eval.bind_of_ok due

/-- Where another turn is due and none is left, the guard ends the loop. -/
theorem guarded_of_due (due : parts.due count world = .ok true tested) :
    guarded limit parts 0 count world = .error (.error ⟨.tooManyTurns limit, none⟩) tested :=
  Eval.bind_of_ok due

theorem guarded_of_turn (due : parts.due count world = .ok true tested) :
    guarded limit parts (turns + 1) count world = (do
      match ← parts.turn count with
      | .normal _ => guarded limit parts turns (parts.next count)
      | .endGame => return .normal .null
      | .snap value => return .snap value) tested :=
  Eval.bind_of_ok due

theorem guarded_of_passed {value : Value} (due : parts.due count world = .ok true tested)
    (turn : parts.turn count tested = .ok (.normal value) passed) :
    guarded limit parts (turns + 1) count world =
      guarded limit parts turns (parts.next count) passed :=
  (guarded_of_turn due).trans (Eval.bind_of_ok turn)

end Turns

/-- Turns that end normally leave the guard with as many turns fewer. -/
theorem guarded_of_passes {turns left : Nat} {count last : Count} {world later : World}
    (passes : Passes parts turns count world last later) :
    guarded limit parts (left + turns) count world = guarded limit parts left last later := by
  induction passes with
  | none => rfl
  | some due turn _ induction => exact (guarded_of_passed due turn).trans induction

/-- A loop that has made all turns that are left, and is due for another one, fails. -/
theorem guarded_of_overrun {turns : Nat} {count last : Count} {world later tested : World}
    (passes : Passes parts turns count world last later)
    (due : parts.due last later = .ok true tested) :
    guarded limit parts turns count world =
      .error (.error ⟨.tooManyTurns limit, none⟩) tested := by
  have guarded : guarded limit parts (0 + turns) count world = guarded limit parts 0 last later :=
    guarded_of_passes passes
  rw [Nat.zero_add, guarded_of_due due] at guarded
  exact guarded

theorem guarded_of_last {turns entered : Nat} {count : Count} {world : World}
    {ending : Ending Flow} (ends : Last parts count world entered ending)
    (enough : entered ≤ turns) : guarded limit parts turns count world = ending := by
  cases ends with
  | refused due => exact guarded_of_refused due
  | finished due => exact guarded_of_finished due
  | failed due turn =>
      obtain ⟨left, rfl⟩ : ∃ left, turns = left + 1 := ⟨turns - 1, by omega⟩
      exact (guarded_of_turn due).trans (Eval.bind_of_error turn)
  | ended due turn | snapped due turn =>
      obtain ⟨left, rfl⟩ : ∃ left, turns = left + 1 := ⟨turns - 1, by omega⟩
      exact (guarded_of_turn due).trans (Eval.bind_of_ok turn)

/-- The guard makes no difference to a loop that enters its body no more often than allowed. -/
theorem guarded_of_runs {turns entered : Nat} {count : Count} {world : World}
    {ending : Ending Flow} (runs : Runs parts count world entered ending)
    (enough : entered ≤ turns) : guarded limit parts turns count world = ending := by
  obtain @⟨taken, more, _, _, _, passes, ends⟩ := runs
  obtain ⟨left, rfl⟩ : ∃ left, turns = left + taken := ⟨turns - taken, by omega⟩
  rw [guarded_of_passes passes]
  exact guarded_of_last ends (by omega)

/-- A loop that has made some turns and is due for another one enters its body more often. -/
theorem Runs.entered_gt {turns entered : Nat} {count last : Count} {world later tested : World}
    {ending : Ending Flow} (runs : Runs parts count world entered ending)
    (passes : Passes parts turns count world last later)
    (due : parts.due last later = .ok true tested) : turns < entered := by
  refine Nat.lt_of_not_le fun enough => ?_
  -- The ending would be the failure that a guard reports, whatever the limit that it reports.
  have fails (limit : Nat) : ending = .error (.error ⟨.tooManyTurns limit, none⟩) tested :=
    (guarded_of_runs runs enough).symm.trans (guarded_of_overrun passes due)
  cases (fails 0).symm.trans (fails 1)

/-- A loop ends within a number of turns, or it makes them all and another one is due. -/
theorem runs_or_passes (parts : Parts Count) (turns : Nat) (count : Count) (world : World) :
    (∃ entered ending, Runs parts count world entered ending ∧ entered ≤ turns) ∨
      ∃ last later tested, Passes parts turns count world last later ∧
        parts.due last later = .ok true tested := by
  have atOnce {entered turns : Nat} {count : Count} {world : World} {ending : Ending Flow}
      (ends : Last parts count world entered ending) (enough : entered ≤ turns) :
      ∃ entered ending, Runs parts count world entered ending ∧ entered ≤ turns :=
    ⟨_, ending, .mk .none ends, by omega⟩
  induction turns generalizing count world with
  | zero =>
      rcases due : parts.due count world with ⟨_ | _, tested⟩ | ⟨stop, tested⟩
      · exact .inl (atOnce (.finished due) (Nat.le_refl 0))
      · exact .inr ⟨count, world, tested, .none, due⟩
      · exact .inl (atOnce (.refused due) (Nat.le_refl 0))
  | succ turns induction =>
      rcases due : parts.due count world with ⟨_ | _, tested⟩ | ⟨stop, tested⟩
      · exact .inl (atOnce (.finished due) (Nat.zero_le _))
      · rcases turn : parts.turn count tested with ⟨value | value | _, passed⟩ | ⟨stop, passed⟩
        · rcases induction (parts.next count) passed with
            ⟨_, ending, ⟨passes, ends⟩, enough⟩ | ⟨last, later, tested', passes, due'⟩
          · exact .inl ⟨_, ending, .mk (.some due turn passes) ends, by omega⟩
          · exact .inr ⟨last, later, tested', .some due turn passes, due'⟩
        · exact .inl (atOnce (.snapped due turn) (Nat.le_add_left 1 turns))
        · exact .inl (atOnce (.ended due turn) (Nat.le_add_left 1 turns))
        · exact .inl (atOnce (.failed due turn) (Nat.le_add_left 1 turns))
      · exact .inl (atOnce (.refused due) (Nat.zero_le _))

end Guarded

/-- Where a loop begins: its parts, its first count, the world in which it is first tested, and
what is done with the world when it has ended. -/
structure Opening where
  Count : Type
  parts : Parts Count
  first : Count
  world : World
  close : World → World

end Loop

/-! ### The loops of programs -/

/-- The actions that are loops. -/
def Action.IsLoop : Action → Prop
  | .loopWhile .. | .loopRange .. | .loopFor .. => True
  | _ => False

section Programs

variable (invoke : Invoke) (scope : ScopeId) (world : World)

/-- `Opens action opening`: what an action does before its loop ends normally, and then the loop
begins. -/
inductive Action.Opens : Action → Loop.Opening → Prop where
  | loopWhile {condition : Expr} {body : List Stmt} :
      Opens (.loopWhile condition body)
        { Count := Unit
          parts := .conditional (condition.test invoke .fightUntil scope)
            (Eval.inChild scope fun inner => Stmt.execList invoke body inner .null)
          first := ()
          world
          close := id }
  | loopRange {iterator : String} {start stop : Expr} {step : Option Expr} {body : List Stmt}
      {range : Range} {later : World}
      (header : Expr.range invoke scope start stop step world = .ok range later) :
      Opens (.loopRange iterator start stop step body)
        { Count := Float
          parts := .counted range fun count =>
            Eval.inScope (fun heap => (heap.childOf scope).bind ⟨iterator, .number count, false⟩)
              fun inner => Stmt.execList invoke body inner .null
          first := range.start
          world := later
          close := id }
  | loopFor {header : Stmt} {condition modification : Expr} {body : List Stmt} {value : Value}
      {later : World}
      (ran : header.exec invoke world.heap.nextScope
        (world.mapHeap fun heap => heap.addScope (heap.childOf scope)) =
          .ok (.normal value) later) :
      Opens (.loopFor header condition modification body)
        { Count := Unit
          parts := .conditional (condition.test invoke .wakandaFor world.heap.nextScope) do
            match ← Eval.inChild world.heap.nextScope fun inner =>
                Stmt.execList invoke body inner .null with
            | .normal value =>
                let _ ← modification.eval invoke world.heap.nextScope
                return .normal value
            | flow => return flow
          first := ()
          world := later
          close := (·.endScope world.heap.nextScope world.heap.routines.size) }

/-- `Unguarded action entered ending`: without its own guard the loop of an action enters its body
as often as `entered` says, and the action ends so.  All other loops keep their guards. -/
inductive Action.Unguarded : Action → Nat → Ending Flow → Prop where
  | opened {action : Action} {opening : Loop.Opening} {entered : Nat} {ending : Ending Flow}
      (opens : action.Opens invoke scope world opening)
      (runs : Loop.Runs opening.parts opening.first opening.world entered ending) :
      Unguarded action entered (ending.closed opening.close)
  | rangeFails {iterator : String} {start stop : Expr} {step : Option Expr} {body : List Stmt}
      {failure : Eval.Stop} {later : World}
      (header : Expr.range invoke scope start stop step world = .error failure later) :
      Unguarded (.loopRange iterator start stop step body) 0 (.error failure later)
  | headerFails {header : Stmt} {condition modification : Expr} {body : List Stmt}
      {failure : Eval.Stop} {later : World}
      (ran : header.exec invoke world.heap.nextScope
        (world.mapHeap fun heap => heap.addScope (heap.childOf scope)) = .error failure later) :
      Unguarded (.loopFor header condition modification body) 0
        (.error failure (later.endScope world.heap.nextScope world.heap.routines.size))
  | headerLeaves {header : Stmt} {condition modification : Expr} {body : List Stmt} {flow : Flow}
      {later : World}
      (ran : header.exec invoke world.heap.nextScope
        (world.mapHeap fun heap => heap.addScope (heap.childOf scope)) = .ok flow later)
      (leaves : ∀ value, flow ≠ .normal value) :
      Unguarded (.loopFor header condition modification body) 0
        (.ok flow (later.endScope world.heap.nextScope world.heap.routines.size))

/-- `Overruns action turns later`: the loop of an action makes as many complete turns, and the test
for another one holds; then the world is the later one. -/
inductive Action.Overruns : Action → Nat → World → Prop where
  | mk {action : Action} {opening : Loop.Opening} {turns : Nat} {last : opening.Count}
      {passed tested : World} (opens : action.Opens invoke scope world opening)
      (passes : Loop.Passes opening.parts turns opening.first opening.world last passed)
      (due : opening.parts.due last passed = .ok true tested) :
      Overruns action turns (opening.close tested)

end Programs

section Guarded

variable {invoke : Invoke} (calls : ∀ id arguments scope, (invoke id arguments scope).Gradual)
  {scope : ScopeId} {world : World} (stands : scope.index < world.heap.scopes.size)
  {action : Action}

include calls stands

/-- A loop that begins is guarded by the limit of the scope of its statement. -/
theorem Action.exec_of_opens {opening : Loop.Opening}
    (opens : action.Opens invoke scope world opening) :
    action.exec invoke scope world =
      Ending.closed (Loop.guarded (world.heap.limits scope).iterations opening.parts
        (world.heap.limits scope).iterations opening.first opening.world) opening.close := by
  have limits (later : World) (id : ScopeId) : Eval.readHeap (·.limits id) later =
      .ok (later.heap.limits id) later := rfl
  cases opens with
  | loopWhile =>
      rw [Action.exec, Eval.bind_of_ok (limits world scope), Loop.conditional_eq,
        Ending.closed_id]
  | @loopRange _ start stop step _ range later header =>
      have leads : World.Leads world later := by
        have gradual : (Expr.range invoke scope start stop step).Gradual :=
          Eval.Gradual.compositional.range calls start stop step
        have reached := gradual world
        rw [header] at reached
        exact reached
      have same : later.heap.limits scope = world.heap.limits scope :=
        (leads.steady scope stands).2.1
      rw [Action.exec, Eval.bind_of_ok header, Eval.bind_of_ok (limits later scope),
        Loop.counted_eq, Ending.closed_id, same]
  | @loopFor header _ _ _ value later ran =>
      have leads : World.Leads (world.mapHeap fun heap => heap.addScope (heap.childOf scope))
          later := by
        have gradual : (header.exec invoke world.heap.nextScope).Gradual :=
          Eval.Gradual.compositional.statement calls header fun _ => trivial
        have reached := gradual (world.mapHeap fun heap => heap.addScope (heap.childOf scope))
        rw [ran] at reached
        exact reached
      have opened : world.heap.nextScope.index <
          (world.heap.addScope (world.heap.childOf scope)).scopes.size := by
        simp [Heap.nextScope]
      have inherited : (world.heap.addScope (world.heap.childOf scope)).limits
          world.heap.nextScope = world.heap.limits scope := by
        rw [Heap.limits, Heap.scope?_addScope, if_pos rfl]
        rfl
      have same : later.heap.limits world.heap.nextScope = world.heap.limits scope :=
        (leads.steady _ opened).2.1.trans inherited
      rw [Action.exec, Eval.inChild_apply, Eval.bind_of_ok ran]
      dsimp only
      rw [Eval.bind_of_ok (limits later _), same]
      exact congrArg (fun turns : Eval Flow => Ending.closed (turns later) _)
        (Loop.conditional_eq _ _ _ _)

/-- A loop whose body is entered no more often than allowed ends as it does without a guard. -/
theorem Action.exec_of_unguarded {entered : Nat} {ending : Ending Flow}
    (unguarded : action.Unguarded invoke scope world entered ending)
    (enough : entered ≤ (world.heap.limits scope).iterations) :
    action.exec invoke scope world = ending := by
  cases unguarded with
  | opened opens runs =>
      rw [Action.exec_of_opens calls stands opens, Loop.guarded_of_runs runs enough]
  | rangeFails header => rw [Action.exec, Eval.bind_of_error header]
  | headerFails ran =>
      rw [Action.exec, Eval.inChild_apply, Eval.bind_of_error ran]
      rfl
  | @headerLeaves _ _ _ _ flow later ran leaves =>
      rw [Action.exec, Eval.inChild_apply, Eval.bind_of_ok ran]
      cases flow with
      | normal value => exact absurd rfl (leaves value)
      | snap value | endGame => rfl

/-- A loop that overruns its limit fails. -/
theorem Action.exec_of_overruns {later : World}
    (overruns : action.Overruns invoke scope world (world.heap.limits scope).iterations later) :
    action.exec invoke scope world =
      .error (.error ⟨.tooManyTurns (world.heap.limits scope).iterations, none⟩) later := by
  obtain ⟨opens, passes, due⟩ := overruns
  rw [Action.exec_of_opens calls stands opens, Loop.guarded_of_overrun passes due]
  rfl

omit calls stands in
/-- A loop ends within a number of turns, or it overruns that number. -/
theorem Action.unguarded_or_overruns (loop : action.IsLoop) (turns : Nat) :
    (∃ entered ending, action.Unguarded invoke scope world entered ending ∧ entered ≤ turns) ∨
      ∃ later, action.Overruns invoke scope world turns later := by
  have opened {opening : Loop.Opening} (opens : action.Opens invoke scope world opening) :
      (∃ entered ending, action.Unguarded invoke scope world entered ending ∧ entered ≤ turns) ∨
        ∃ later, action.Overruns invoke scope world turns later := by
    rcases Loop.runs_or_passes opening.parts turns opening.first opening.world with
      ⟨entered, ending, runs, enough⟩ | ⟨last, passed, tested, passes, due⟩
    · exact .inl ⟨entered, _, .opened opens runs, enough⟩
    · exact .inr ⟨_, .mk opens passes due⟩
  cases action with
  | loopWhile condition body => exact opened .loopWhile
  | loopRange iterator start stop step body =>
      cases header : Expr.range invoke scope start stop step world with
      | ok range later => exact opened (.loopRange header)
      | error failure later => exact .inl ⟨0, _, .rangeFails header, Nat.zero_le turns⟩
  | loopFor header condition modification body =>
      rcases ran : header.exec invoke world.heap.nextScope
          (world.mapHeap fun heap => heap.addScope (heap.childOf scope)) with
        ⟨value | value | _, later⟩ | ⟨failure, later⟩
      · exact opened (.loopFor ran)
      · exact .inl ⟨0, _, .headerLeaves ran nofun, Nat.zero_le turns⟩
      · exact .inl ⟨0, _, .headerLeaves ran nofun, Nat.zero_le turns⟩
      · exact .inl ⟨0, _, .headerFails ran, Nat.zero_le turns⟩
  | _ => exact loop.elim

end Guarded

/-- The guard of a loop is exact.  If the loop would enter its body no more often than the limit
of its scope allows, the statement ends as it does without the guard.  Otherwise it fails after as
many complete turns as the limit allows and one more test, and everything done until then stays
done.  The count begins anew whenever the statement is run. -/
theorem loop_guard_exact (budget line : Nat) (action : Action) (loop : action.IsLoop)
    (scope : ScopeId) (world : World) (data : Scope)
    (found : world.heap.scope? scope = some data) :
    (∀ entered ending, action.Unguarded (invokeWithin budget) scope world entered ending →
      entered ≤ data.limits.iterations →
      (Stmt.mk line action).exec (invokeWithin budget) scope world = ending.atLine line) ∧
    ((∀ entered ending, action.Unguarded (invokeWithin budget) scope world entered ending →
        data.limits.iterations < entered) →
      ∃ later,
        action.Overruns (invokeWithin budget) scope world data.limits.iterations later ∧
        (Stmt.mk line action).exec (invokeWithin budget) scope world =
          .error (.error ⟨.tooManyTurns data.limits.iterations, some line⟩) later) := by
  have calls := invokeWithin_gradual budget
  have stands := Heap.lt_of_scope? found
  rw [← Heap.limits_eq found]
  constructor
  · intro entered ending unguarded enough
    rw [Stmt.exec, Eval.atLine_apply, action.exec_of_unguarded calls stands unguarded enough]
  · intro exceeds
    rcases action.unguarded_or_overruns loop (world.heap.limits scope).iterations with
      ⟨entered, ending, unguarded, enough⟩ | ⟨later, overruns⟩
    · exact absurd enough (Nat.not_le_of_lt (exceeds entered ending unguarded))
    · refine ⟨later, overruns, ?_⟩
      rw [Stmt.exec, Eval.atLine_apply, action.exec_of_overruns calls stands overruns]
      rfl

/-- A world with a scope in which every loop may make one turn. -/
def World.once : World :=
  { World.initial (Readings.seeded 0 0) .release with
    heap := Heap.empty.addScope (Heap.root { iterations := 1, callDepth := 1 }) }

/-- A loop that makes one turn, in which two other loops make one turn each. -/
def Action.nestedLoops : Action :=
  let inner : Stmt := .mk 2 (.loopWhile (.number 1) [.mk 3 .endGame])
  .loopWhile (.number 1) [inner, inner, .mk 4 .endGame]

/-- Where a loop may make one turn, one with others inside it ends, and one without an end
overruns. -/
theorem loop_guard_exact_nested :
    (∃ later, (Stmt.mk 1 .nestedLoops).exec (invokeWithin 0) ⟨0⟩ World.once =
      .ok (.normal .null) later) ∧
    ∃ later, (Action.loopWhile (.number 1) []).Overruns (invokeWithin 0) ⟨0⟩ World.once 1 later ∧
      (Stmt.mk 1 (.loopWhile (.number 1) [])).exec (invokeWithin 0) ⟨0⟩ World.once =
        .error (.error ⟨.tooManyTurns 1, some 1⟩) later := by
  constructor
  · have turns : Action.nestedLoops.Unguarded (invokeWithin 0) ⟨0⟩ World.once 1 _ :=
      .opened .loopWhile (.mk .none (.ended rfl rfl))
    exact ⟨_, (loop_guard_exact 0 1 .nestedLoops trivial ⟨0⟩ World.once _ rfl).1 1 _ turns
      (Nat.le_refl 1)⟩
  · refine (loop_guard_exact 0 1 (.loopWhile (.number 1) []) trivial ⟨0⟩ World.once _ rfl).2 ?_
    intro entered ending unguarded
    cases unguarded with
    | opened opens runs =>
        cases opens
        exact runs.entered_gt (.some rfl rfl .none) rfl

end Avenger
