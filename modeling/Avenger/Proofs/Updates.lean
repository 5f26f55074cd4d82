import Avenger.Proofs.Turns

/-!
# Compound assignments

`x += e` reads the variable, evaluates the operand and assigns what the operator makes of the two
numbers.  `x = x + e` does the same in the same order, so that the two cannot be told apart if both
values are numbers, or if one of them cannot be had at all.  With other values only the assignment
that is written out goes on: the compound assignment is refused when its operand has been evaluated,
and it names the kind of the value that the variable had before.
-/

namespace Avenger

open Eval (Ending)

theorem Heap.lookup_eq_error {heap : Heap} {scope : ScopeId} {name : String} {fault : Fault}
    (failed : heap.lookup scope name = .error fault) : fault = .unresolved name := by
  unfold Heap.lookup at failed
  split at failed
  · cases failed
  · cases failed
    rfl

namespace Eval

variable {scope : ScopeId} {name : String} {world : World}

theorem lookup_of_ok {value : Value} (found : world.heap.lookup scope name = .ok value) :
    Eval.lookup scope name world = .ok value world := by
  show Eval.ofExcept (world.heap.lookup scope name) world = _
  rw [found]
  rfl

theorem lookup_of_error {fault : Fault} (missing : world.heap.lookup scope name = .error fault) :
    Eval.lookup scope name world = .error (.error ⟨fault, none⟩) world := by
  show Eval.ofExcept (world.heap.lookup scope name) world = _
  rw [missing]
  rfl

end Eval

namespace Expr

variable (invoke : Invoke) (scope : ScopeId) (operator : Arithmetic) (name : String)
  (operand : Expr)

/-- The compound assignment to a variable: `x += e`. -/
def compound : Expr := .update operator (.name name) operand

/-- The assignment that a compound assignment stands for: `x = x + e`. -/
def writtenOut : Expr :=
  .assign (.name name) (.arithmetic operator (.name name) operand)

/-- How a compound assignment and the assignment that it stands for end when both are evaluated in
the same world. -/
inductive UpdateEnds (world : World) : Ending Value → Ending Value → Prop where
  /-- The variable is unknown, and the operand is not evaluated. -/
  | unresolved
      (missing : world.heap.lookup scope name = .error (.unresolved name)) :
      UpdateEnds world (.error (.error ⟨.unresolved name, none⟩) world)
        (.error (.error ⟨.unresolved name, none⟩) world)
  | failed {current : Value} {stop : Eval.Stop} {later : World}
      (held : world.heap.lookup scope name = .ok current)
      (evaluated : operand.eval invoke scope world = .error stop later) :
      UpdateEnds world (.error stop later) (.error stop later)
  /-- Both are numbers, and it is the number read first that counts. -/
  | numbers {left right : Float} {later : World}
      (held : world.heap.lookup scope name = .ok (.number left))
      (evaluated : operand.eval invoke scope world = .ok (.number right) later) :
      UpdateEnds world
        (Eval.assign scope name (.number (operator.onNumbers left right)) later)
        (Eval.assign scope name (.number (operator.onNumbers left right)) later)
  /-- The compound assignment leaves the world as the operand has left it. -/
  | refused {current value : Value} {later : World}
      (held : world.heap.lookup scope name = .ok current)
      (evaluated : operand.eval invoke scope world = .ok value later)
      (other : current.kind ≠ .number ∨ value.kind ≠ .number) (ending : Ending Value) :
      UpdateEnds world
        (.error (.error ⟨.updateKinds operator current.kind value.kind, none⟩) later) ending

variable {invoke scope operator name operand} {world later : World}

theorem eval_compound (operator : Arithmetic) (name : String) (operand : Expr) :
    (compound operator name operand).eval invoke scope = (do
      let current ← Eval.lookup scope name
      let value ← operand.eval invoke scope
      match current, value with
      | .number left, .number right =>
          Eval.assign scope name (.number (operator.onNumbers left right))
      | current, value => Eval.fail (.updateKinds operator current.kind value.kind)) :=
  (Expr.eval.eq_def ..).trans rfl

/-- The number of repetitions that the scope allows is read in between, but numbers have no use for
it. -/
theorem eval_writtenOut (operator : Arithmetic) (name : String) (operand : Expr) :
    (writtenOut operator name operand).eval invoke scope = (do
      let current ← Eval.lookup scope name
      let value ← operand.eval invoke scope
      let limits ← Eval.readHeap (·.limits scope)
      let result ← Eval.ofExcept (Value.arithmetic operator limits.iterations current value)
      Eval.assign scope name result) := by
  rw [writtenOut, Expr.eval, Expr.eval, Expr.eval]
  simp only [bind_assoc]

section Read

variable {current : Value} (held : world.heap.lookup scope name = .ok current)

include held

theorem compound_of_failed {stop : Eval.Stop}
    (evaluated : operand.eval invoke scope world = .error stop later) :
    (compound operator name operand).eval invoke scope world = .error stop later := by
  rw [eval_compound, Eval.bind_of_ok (Eval.lookup_of_ok held), Eval.bind_of_error evaluated]

theorem writtenOut_of_failed {stop : Eval.Stop}
    (evaluated : operand.eval invoke scope world = .error stop later) :
    (writtenOut operator name operand).eval invoke scope world = .error stop later := by
  rw [eval_writtenOut, Eval.bind_of_ok (Eval.lookup_of_ok held), Eval.bind_of_error evaluated]

theorem compound_of_refused {value : Value}
    (evaluated : operand.eval invoke scope world = .ok value later)
    (other : current.kind ≠ .number ∨ value.kind ≠ .number) :
    (compound operator name operand).eval invoke scope world =
      .error (.error ⟨.updateKinds operator current.kind value.kind, none⟩) later := by
  rw [eval_compound, Eval.bind_of_ok (Eval.lookup_of_ok held), Eval.bind_of_ok evaluated]
  split
  · rcases other with apart | apart <;> exact absurd rfl apart
  · rfl

end Read

section Numbers

variable {left right : Float} (held : world.heap.lookup scope name = .ok (.number left))
  (evaluated : operand.eval invoke scope world = .ok (.number right) later)

include held evaluated

theorem compound_of_numbers :
    (compound operator name operand).eval invoke scope world =
      Eval.assign scope name (.number (operator.onNumbers left right)) later := by
  rw [eval_compound, Eval.bind_of_ok (Eval.lookup_of_ok held), Eval.bind_of_ok evaluated]

theorem writtenOut_of_numbers :
    (writtenOut operator name operand).eval invoke scope world =
      Eval.assign scope name (.number (operator.onNumbers left right)) later := by
  rw [eval_writtenOut, Eval.bind_of_ok (Eval.lookup_of_ok held), Eval.bind_of_ok evaluated]
  rfl

end Numbers

end Expr

/-- A compound assignment agrees with the assignment that it stands for.  They end alike, in the
same world, if the variable is unknown, if the operand fails, or if both values are numbers, also
if the operand has assigned to the variable meanwhile.  Otherwise the compound assignment is
refused and stores nothing. -/
theorem compound_assignment_agrees (invoke : Invoke) (scope : ScopeId) (operator : Arithmetic)
    (name : String) (operand : Expr) (world : World) :
    Expr.UpdateEnds invoke scope operator name operand world
      ((Expr.compound operator name operand).eval invoke scope world)
      ((Expr.writtenOut operator name operand).eval invoke scope world) := by
  cases held : world.heap.lookup scope name with
  | error fault =>
      obtain rfl := Heap.lookup_eq_error held
      rw [Expr.eval_compound, Expr.eval_writtenOut, Eval.bind_of_error (Eval.lookup_of_error held),
        Eval.bind_of_error (Eval.lookup_of_error held)]
      exact .unresolved held
  | ok current =>
      cases evaluated : operand.eval invoke scope world with
      | error stop later =>
          rw [Expr.compound_of_failed held evaluated, Expr.writtenOut_of_failed held evaluated]
          exact .failed held evaluated
      | ok value later =>
          by_cases numbers : current.kind = .number ∧ value.kind = .number
          · obtain ⟨left, rfl⟩ : ∃ left, current = .number left := by
              cases current <;> simp_all [Value.kind]
            obtain ⟨right, rfl⟩ : ∃ right, value = .number right := by
              cases value <;> simp_all [Value.kind]
            rw [Expr.compound_of_numbers held evaluated, Expr.writtenOut_of_numbers held evaluated]
            exact .numbers held evaluated
          · have other : current.kind ≠ .number ∨ value.kind ≠ .number := by
              rwa [ne_eq, ne_eq, ← Decidable.not_and_iff_not_or_not]
            rw [Expr.compound_of_refused held evaluated other]
            exact .refused held evaluated other _

/-- A world with a variable that holds a number. -/
def World.counter (number : Float) : World :=
  { World.initial (Readings.seeded 0 0) .release with
    heap := (Heap.empty.addScope (Heap.root .standard)).bind ⟨0⟩ ⟨"x", .number number, false⟩ }

theorem World.counter_resolved (number : Float) :
    (World.counter number).heap.resolve? "x" ⟨0⟩ = some (⟨0⟩, ⟨"x", .number number, false⟩) := by
  rw [Heap.resolve?]
  rfl

theorem World.assign_counter (number value : Float) :
    Eval.assign ⟨0⟩ "x" (.number value) (World.counter number) =
      .ok (.number value) (World.counter value) := by
  rw [Eval.assign_apply, Heap.assignable, World.counter_resolved]
  rfl

/-- `x += (x = 5)` and `x = x + (x = 5)` add five to what the variable held at first. -/
theorem compound_assignment_agrees_stale :
    Expr.UpdateEnds (invokeWithin 1) ⟨0⟩ .add "x" (.assign (.name "x") (.number 5))
      (World.counter 1) (.ok (.number (1 + 5)) (World.counter (1 + 5)))
      (.ok (.number (1 + 5)) (World.counter (1 + 5))) := by
  have held : (World.counter 1).heap.lookup ⟨0⟩ "x" = .ok (.number 1) := by
    rw [Heap.lookup, World.counter_resolved]
  have evaluated : (Expr.assign (.name "x") (.number 5)).eval (invokeWithin 1) ⟨0⟩
      (World.counter 1) = .ok (.number 5) (World.counter 5) := by
    rw [Expr.eval, Expr.eval, pure_bind]
    exact World.assign_counter 1 5
  have agrees := compound_assignment_agrees (invokeWithin 1) ⟨0⟩ .add "x"
    (.assign (.name "x") (.number 5)) (World.counter 1)
  rw [Expr.compound_of_numbers held evaluated, Expr.writtenOut_of_numbers held evaluated] at agrees
  have assigned : Eval.assign ⟨0⟩ "x" (.number (Arithmetic.add.onNumbers 1 5)) (World.counter 5) =
      .ok (.number (1 + 5)) (World.counter (1 + 5)) := World.assign_counter 5 (1 + 5)
  rwa [assigned] at agrees

end Avenger
