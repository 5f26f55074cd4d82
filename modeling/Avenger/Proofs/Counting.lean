import Avenger.Proofs.Turns

/-!
# The counts of a range loop

A range loop evaluates its header once and then makes passes.  The count of a pass follows from
the header and the number of the pass alone.  Each pass runs the body in a scope of its own, which
stands in the scope of the loop and at first binds nothing but the iterator to the count of the
pass.  So nothing that the body of an earlier pass has done can disturb the counting.
-/

namespace Avenger

open Eval (Ending)

namespace Range

/-- The count of a pass; the first pass has the number zero. -/
def countAt (range : Range) : Nat → Float
  | 0 => range.start
  | pass + 1 =>
      if range.start ≤ range.stop then range.countAt pass + range.step
      else range.countAt pass - range.step

/-- Whether the count of a pass is within the bound of the range. -/
def Due (range : Range) (pass : Nat) : Prop :=
  if range.start ≤ range.stop then range.countAt pass ≤ range.stop
  else range.stop ≤ range.countAt pass

variable (range : Range) (pass : Nat)

instance : Decidable (range.Due pass) :=
  inferInstanceAs (Decidable (if range.start ≤ range.stop then _ else _))

theorem next_countAt : range.next (range.countAt pass) = range.countAt (pass + 1) := by
  simp [next, ascending, countAt]

theorem contains_countAt : range.contains (range.countAt pass) = true ↔ range.Due pass := by
  by_cases upward : range.start ≤ range.stop
  · simp [contains, ascending, Due, upward]
  · simp [contains, ascending, Due, upward]

theorem contains_of_not_due (out : ¬range.Due pass) :
    range.contains (range.countAt pass) = false :=
  Bool.eq_false_iff.mpr fun within => out ((range.contains_countAt pass).mp within)

end Range

/-- A range loop whose header has been evaluated: the scope of the loop, its iterator, its body
and the numbers in its header. -/
structure RangeLoop where
  scope : ScopeId
  iterator : String
  body : List Stmt
  range : Range

namespace RangeLoop

variable (loop : RangeLoop) (invoke : Invoke)

/-- The scope of a pass as it is made. -/
def passScope (heap : Heap) (pass : Nat) : Scope :=
  { bindings := [⟨loop.iterator, .number (loop.range.countAt pass), false⟩]
    parent := some loop.scope
    limits := heap.limits loop.scope
    depth := heap.depth loop.scope }

/-- The heap in which the body of a pass starts, in the scope that has been added last. -/
def passHeap (heap : Heap) (pass : Nat) : Heap := heap.addScope (loop.passScope heap pass)

/-- How a pass ends that starts in the given world. -/
def pass (pass : Nat) (world : World) : Ending Flow :=
  Ending.closed
    (Stmt.execList invoke loop.body world.heap.nextScope .null
      (world.mapHeap (loop.passHeap · pass)))
    (·.endScope world.heap.nextScope world.heap.routines.size)

/-- What the names of the loop's surroundings and the iterator are to the body of a pass that
starts in the given heap. -/
structure PassOpens (pass : Nat) (heap : Heap) : Prop where
  fresh : heap.scope? heap.nextScope = none
  alone : (loop.passHeap heap pass).scope? heap.nextScope = some (loop.passScope heap pass)
  iterator : (loop.passHeap heap pass).lookup heap.nextScope loop.iterator =
    .ok (.number (loop.range.countAt pass))
  outside : ∀ name, name ≠ loop.iterator →
    (loop.passHeap heap pass).lookup heap.nextScope name = heap.lookup loop.scope name

section Passes

variable (limit : Nat) (start : World)

/-- `Passed count world`: from the start on, as many passes were within the bound and the limit,
ran one after the other and ended normally, the last one in the given world. -/
inductive Passed : Nat → World → Prop where
  | none : Passed 0 start
  | more {pass : Nat} {world later : World} {value : Value} (before : Passed pass world)
      (due : loop.range.Due pass) (allowed : pass < limit)
      (ran : loop.pass invoke pass world = .ok (.normal value) later) : Passed (pass + 1) later

/-- How the loop ends: when the count is out of the bound, or with the pass that the limit does
not allow, that breaks off, returns or fails. -/
inductive Ends : Ending Flow → Prop where
  | exhausted {pass : Nat} {world : World} (before : loop.Passed invoke limit start pass world)
      (out : ¬loop.range.Due pass) : Ends (.ok (.normal .null) world)
  | limited {world : World} (before : loop.Passed invoke limit start limit world)
      (due : loop.range.Due limit) :
      Ends (.error (.error ⟨.tooManyTurns limit, none⟩) world)
  | broken {pass : Nat} {world later : World} (before : loop.Passed invoke limit start pass world)
      (due : loop.range.Due pass) (allowed : pass < limit)
      (ran : loop.pass invoke pass world = .ok .endGame later) : Ends (.ok (.normal .null) later)
  | returned {pass : Nat} {world later : World} {value : Value}
      (before : loop.Passed invoke limit start pass world)
      (due : loop.range.Due pass) (allowed : pass < limit)
      (ran : loop.pass invoke pass world = .ok (.snap value) later) :
      Ends (.ok (.snap value) later)
  | failed {pass : Nat} {world later : World} {stop : Eval.Stop}
      (before : loop.Passed invoke limit start pass world)
      (due : loop.range.Due pass) (allowed : pass < limit)
      (ran : loop.pass invoke pass world = .error stop later) : Ends (.error stop later)

end Passes

/-! ### The passes are the turns of the loop -/

/-- The turn of the loop for a count. -/
def turn (count : Float) : Eval Flow :=
  Eval.inScope (fun heap => (heap.childOf loop.scope).bind ⟨loop.iterator, .number count, false⟩)
    fun inner => Stmt.execList invoke loop.body inner .null

/-- The parts of the loop. -/
def parts : Loop.Parts Float := .counted loop.range (loop.turn invoke)

section Turns

variable {loop invoke} {limit pass : Nat} {start world : World}

theorem parts_due (due : loop.range.Due pass) :
    (loop.parts invoke).due (loop.range.countAt pass) world = .ok true world := by
  have within := (loop.range.contains_countAt pass).mpr due
  show EStateM.Result.ok (loop.range.contains (loop.range.countAt pass)) world = _
  rw [within]

theorem parts_out (out : ¬loop.range.Due pass) :
    (loop.parts invoke).due (loop.range.countAt pass) world = .ok false world := by
  have beyond := loop.range.contains_of_not_due pass out
  show EStateM.Result.ok (loop.range.contains (loop.range.countAt pass)) world = _
  rw [beyond]

theorem parts_turn :
    (loop.parts invoke).turn (loop.range.countAt pass) world = loop.pass invoke pass world := by
  show loop.turn invoke (loop.range.countAt pass) world = _
  rw [turn, Eval.inScope_apply]
  rfl

theorem parts_next :
    (loop.parts invoke).next (loop.range.countAt pass) = loop.range.countAt (pass + 1) :=
  loop.range.next_countAt pass

/-- After some passes the guarded loop goes on with the next count and as many turns fewer. -/
theorem Passed.guarded (passed : loop.Passed invoke limit start pass world) :
    pass ≤ limit ∧
      Loop.guarded limit (loop.parts invoke) limit loop.range.start start =
        Loop.guarded limit (loop.parts invoke) (limit - pass) (loop.range.countAt pass) world := by
  induction passed with
  | none => exact ⟨Nat.zero_le limit, rfl⟩
  | @more pass world later value _ due allowed ran induction =>
      refine ⟨allowed, induction.2.trans ?_⟩
      have left : limit - pass = limit - (pass + 1) + 1 := by omega
      rw [left, Loop.guarded_of_passed (parts_due due) (parts_turn.trans ran), parts_next]

/-- The guarded loop ends as its passes say. -/
theorem Ends.guarded {ending : Ending Flow} (ends : loop.Ends invoke limit start ending) :
    Loop.guarded limit (loop.parts invoke) limit loop.range.start start = ending := by
  have leaves {pass : Nat} {world : World} (before : loop.Passed invoke limit start pass world)
      (due : loop.range.Due pass) (allowed : pass < limit)
      (last : Loop.Last (loop.parts invoke) (loop.range.countAt pass) world 1 ending) :
      Loop.guarded limit (loop.parts invoke) limit loop.range.start start = ending :=
    before.guarded.2.trans (Loop.guarded_of_last last (by omega))
  cases ends with
  | exhausted before out =>
      exact before.guarded.2.trans (Loop.guarded_of_finished (parts_out out))
  | limited before due =>
      rw [before.guarded.2, Nat.sub_self]
      exact Loop.guarded_of_due (parts_due due)
  | broken before due allowed ran =>
      exact leaves before due allowed (.ended (parts_due due) (parts_turn.trans ran))
  | returned before due allowed ran =>
      exact leaves before due allowed (.snapped (parts_due due) (parts_turn.trans ran))
  | failed before due allowed ran =>
      exact leaves before due allowed (.failed (parts_due due) (parts_turn.trans ran))

variable (loop invoke limit start)

/-- The loop ends before a pass, or it comes to it. -/
theorem ends_or_passed (pass : Nat) (enough : pass ≤ limit) :
    (∃ ending, loop.Ends invoke limit start ending) ∨
      ∃ world, loop.Passed invoke limit start pass world := by
  induction pass with
  | zero => exact .inr ⟨start, .none⟩
  | succ pass induction =>
      have allowed : pass < limit := enough
      obtain ended | ⟨world, before⟩ := induction (Nat.le_of_lt allowed)
      · exact .inl ended
      · by_cases due : loop.range.Due pass
        · rcases ran : loop.pass invoke pass world with ⟨value | value | _, later⟩ | ⟨stop, later⟩
          · exact .inr ⟨later, .more before due allowed ran⟩
          · exact .inl ⟨_, .returned before due allowed ran⟩
          · exact .inl ⟨_, .broken before due allowed ran⟩
          · exact .inl ⟨_, .failed before due allowed ran⟩
        · exact .inl ⟨_, .exhausted before due⟩

theorem exists_ends : ∃ ending, loop.Ends invoke limit start ending := by
  obtain ended | ⟨world, before⟩ :=
    loop.ends_or_passed invoke limit start limit (Nat.le_refl limit)
  · exact ended
  · by_cases due : loop.range.Due limit
    · exact ⟨_, .limited before due⟩
    · exact ⟨_, .exhausted before due⟩

theorem guarded_eq_iff (ending : Ending Flow) :
    Loop.guarded limit (loop.parts invoke) limit loop.range.start start = ending ↔
      loop.Ends invoke limit start ending := by
  constructor
  · rintro rfl
    obtain ⟨ending, ends⟩ := loop.exists_ends invoke limit start
    rw [ends.guarded]
    exact ends
  · exact Ends.guarded

end Turns

/-! ### The scope of a pass -/

theorem passScope_find? (heap : Heap) (pass : Nat) (name : String) :
    (loop.passScope heap pass).find? name =
      if loop.iterator = name then
        some ⟨loop.iterator, .number (loop.range.countAt pass), false⟩
      else none := by
  by_cases same : loop.iterator = name
  · simp [Scope.find?, passScope, same]
  · simp [Scope.find?, passScope, same]

/-- The scope of a pass is a new one, in which the iterator reads as the count of the pass and
every other name as it does in the scope of the loop. -/
theorem passOpens {heap : Heap} (present : loop.scope.index < heap.scopes.size) (pass : Nat) :
    loop.PassOpens pass heap := by
  have alone : (loop.passHeap heap pass).scope? heap.nextScope =
      some (loop.passScope heap pass) := by
    rw [passHeap, Heap.scope?_addScope, if_pos rfl]
  constructor
  case fresh => simp [Heap.scope?, Heap.nextScope]
  case alone => exact alone
  case iterator =>
      rw [Heap.lookup, Heap.resolve?]
      simp only [alone, passScope_find?, if_true]
  case outside =>
      intro name different
      have inside : loop.scope.index < heap.nextScope.index := present
      have parent : (loop.passScope heap pass).parent = some loop.scope := rfl
      rw [Heap.lookup, Heap.resolve?]
      simp only [alone, passScope_find?, if_neg different.symm, parent, inside, if_true]
      rw [passHeap, Heap.resolve?_addScope _ present, Heap.lookup]

/-- Every scope still stands when a pass has ended. -/
theorem Passed.steady {loop : RangeLoop} {invoke : Invoke}
    (calls : ∀ id arguments scope, (invoke id arguments scope).Gradual) {limit pass : Nat}
    {start world : World} (passed : loop.Passed invoke limit start pass world) :
    start.heap.Steady world.heap := by
  induction passed with
  | none => exact .refl _
  | @more pass world later value _ _ _ ran induction =>
      have turn : (loop.turn invoke (loop.range.countAt pass)).Gradual :=
        .inScope fun inner => Stmt.execList_gradual calls loop.body inner .null
      have leads := turn world
      have ended : loop.turn invoke (loop.range.countAt pass) world = .ok (.normal value) later :=
        parts_turn.trans ran
      rw [ended] at leads
      exact induction.trans leads.steady

end RangeLoop

/-! ### The header of a range loop -/

section Header

variable {invoke : Invoke} {scope : ScopeId}

/-- The header of a range loop is evaluated to numbers, the step of which is above zero: first the
start, then the end, then the step, which is one if there is none. -/
inductive RangeHeader (invoke : Invoke) (scope : ScopeId) (start stop : Expr) (world : World) :
    Option Expr → Range → World → Prop where
  | plain {first last : Float} {started later : World}
      (starts : start.eval invoke scope world = .ok (.number first) started)
      (stops : stop.eval invoke scope started = .ok (.number last) later) :
      RangeHeader invoke scope start stop world none ⟨first, last, 1⟩ later
  | stepped {first last distance : Float} {started stopped later : World} {step : Expr}
      (starts : start.eval invoke scope world = .ok (.number first) started)
      (stops : stop.eval invoke scope started = .ok (.number last) stopped)
      (steps : step.eval invoke scope stopped = .ok (.number distance) later)
      (positive : 0 < distance) :
      RangeHeader invoke scope start stop world (some step) ⟨first, last, distance⟩ later

theorem Expr.rangePart_of_number {expression : Expr} {number : Float} {world later : World}
    (ended : expression.eval invoke scope world = .ok (.number number) later)
    (part : RangePart) :
    expression.rangePart invoke part scope world = .ok number later :=
  Eval.bind_of_ok ended

theorem RangeHeader.range_eq {start stop : Expr} {step : Option Expr} {range : Range}
    {world later : World} (header : RangeHeader invoke scope start stop world step range later) :
    Expr.range invoke scope start stop step world = .ok range later := by
  rw [Expr.range_eq]
  cases header with
  | plain starts stops =>
      have one : (0 : Float) < 1 := by decide
      rw [Eval.bind_of_ok (Expr.rangePart_of_number starts .start),
        Eval.bind_of_ok (Expr.rangePart_of_number stops .stop), Expr.stepPart, pure_bind,
        if_pos one]
      rfl
  | stepped starts stops steps positive =>
      rw [Eval.bind_of_ok (Expr.rangePart_of_number starts .start),
        Eval.bind_of_ok (Expr.rangePart_of_number stops .stop), Expr.stepPart,
        Eval.bind_of_ok (Expr.rangePart_of_number steps .step), if_pos positive]
      rfl

end Header

/-- The body of a range loop cannot disturb its counting.  Once the header has been evaluated, in
its order, the loop runs pass after pass: each with its own count, in a new scope that binds the
iterator alone, and each only if the one before has ended normally.  It ends normally when the
count is out of the bound or a pass breaks off, and otherwise as the last pass does or with the
limit. -/
theorem range_loop_counts (budget line : Nat) (loop : RangeLoop) (start stop : Expr)
    (step : Option Expr) (world later : World) (data : Scope)
    (found : world.heap.scope? loop.scope = some data)
    (header : RangeHeader (invokeWithin budget) loop.scope start stop world step loop.range later) :
    (∀ ending,
      (Stmt.mk line (.loopRange loop.iterator start stop step loop.body)).exec
          (invokeWithin budget) loop.scope world = ending ↔
        ∃ plain : Ending Flow,
          loop.Ends (invokeWithin budget) data.limits.iterations later plain ∧
            ending = plain.atLine line) ∧
    ∀ pass passed,
      loop.Passed (invokeWithin budget) data.limits.iterations later pass passed →
        loop.PassOpens pass passed.heap := by
  have calls := invokeWithin_gradual budget
  have stands := Heap.lt_of_scope? found
  rw [← Heap.limits_eq found]
  constructor
  · intro ending
    have runs : (Action.loopRange loop.iterator start stop step loop.body).exec
        (invokeWithin budget) loop.scope world =
          Loop.guarded (world.heap.limits loop.scope).iterations
            (loop.parts (invokeWithin budget)) (world.heap.limits loop.scope).iterations
            loop.range.start later := by
      rw [Action.exec_of_opens calls stands (.loopRange header.range_eq), Ending.closed_id]
      rfl
    rw [Stmt.exec, Eval.atLine_apply, runs]
    constructor
    · rintro rfl
      exact ⟨_, (loop.guarded_eq_iff _ _ _ _).mp rfl, rfl⟩
    · rintro ⟨plain, ends, rfl⟩
      rw [ends.guarded]
  · intro pass passed reached
    have evaluated : (Expr.range (invokeWithin budget) loop.scope start stop step).Gradual :=
      Eval.Gradual.compositional.range calls start stop step
    have leads := evaluated world
    rw [header.range_eq] at leads
    have steady : world.heap.Steady passed.heap := leads.steady.trans (reached.steady calls)
    exact loop.passOpens (steady _ stands).1 pass

/-- A world with one scope that binds nothing. -/
def World.blank : World :=
  { World.initial (Readings.seeded 0 0) .release with
    heap := Heap.empty.addScope (Heap.root .standard) }

/-- A loop through one and two whose body assigns nine to the iterator. -/
def RangeLoop.overwriting : RangeLoop :=
  { scope := ⟨0⟩
    iterator := "i"
    body := [.mk 2 (.expression (.assign (.name "i") (.number 9)))]
    range := ⟨1, 2, 1⟩ }

/-- The body finds the iterator in the scope of its pass, whatever the world is like. -/
theorem RangeLoop.overwriting_pass (invoke : Invoke) (pass : Nat) (world : World) :
    ∃ later, overwriting.pass invoke pass world = .ok (.normal (.number 9)) later := by
  have alone : (overwriting.passHeap world.heap pass).scope? world.heap.nextScope =
      some (overwriting.passScope world.heap pass) := by
    rw [passHeap, Heap.scope?_addScope, if_pos rfl]
  have assigned : (Expr.assign (.name "i") (.number 9)).eval invoke world.heap.nextScope
      (world.mapHeap (overwriting.passHeap · pass)) =
        .ok (.number 9) ((world.mapHeap (overwriting.passHeap · pass)).mapHeap
          (·.write world.heap.nextScope "i" (.number 9))) := by
    rw [Expr.eval, Expr.eval, pure_bind, Eval.assign_apply, Heap.assignable, Heap.resolve?]
    simp only [World.mapHeap_heap, alone, passScope_find?]
    rfl
  have done : (Action.expression (.assign (.name "i") (.number 9))).exec invoke
      world.heap.nextScope (world.mapHeap (overwriting.passHeap · pass)) =
        .ok (.normal (.number 9)) _ :=
    Eval.bind_of_ok assigned
  have ran : Stmt.execList invoke overwriting.body world.heap.nextScope .null
      (world.mapHeap (overwriting.passHeap · pass)) = .ok (.normal (.number 9)) _ :=
    Eval.bind_of_ok (Eval.atLine_of_ok 2 done)
  rw [RangeLoop.pass, ran]
  exact ⟨_, rfl⟩

/-- Two passes are made from one to two, although each assigns nine to the iterator. -/
theorem range_loop_counts_overwritten :
    ∃ later,
      RangeHeader (invokeWithin 1) ⟨0⟩ (.number 1) (.number 2) World.blank none
        RangeLoop.overwriting.range World.blank ∧
      RangeLoop.overwriting.Passed (invokeWithin 1) Limits.standard.iterations World.blank 2
        later ∧
      (Stmt.mk 1 (.loopRange "i" (.number 1) (.number 2) none RangeLoop.overwriting.body)).exec
        (invokeWithin 1) ⟨0⟩ World.blank = .ok (.normal .null) later := by
  have header : RangeHeader (invokeWithin 1) ⟨0⟩ (.number 1) (.number 2) World.blank none
      RangeLoop.overwriting.range World.blank := .plain rfl rfl
  obtain ⟨middle, first⟩ := RangeLoop.overwriting_pass (invokeWithin 1) 0 World.blank
  obtain ⟨later, second⟩ := RangeLoop.overwriting_pass (invokeWithin 1) 1 middle
  have passed : RangeLoop.overwriting.Passed (invokeWithin 1) Limits.standard.iterations
      World.blank 2 later :=
    .more (.more .none (by decide) (by decide) first) (by decide) (by decide) second
  have out : ¬RangeLoop.overwriting.range.Due 2 := by decide
  obtain ⟨ends, -⟩ := range_loop_counts 1 1 RangeLoop.overwriting (.number 1) (.number 2) none
    World.blank World.blank (Heap.root .standard) rfl header
  exact ⟨later, header, passed, (ends _).mpr ⟨_, .exhausted passed out, rfl⟩⟩

end Avenger
