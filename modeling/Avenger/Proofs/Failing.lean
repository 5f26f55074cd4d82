import Avenger.Proofs.Constants
import Avenger.Proofs.Joining

/-!
# Failing sources

A session starts without failure.  A source that fails in it is not a program, and then nothing
happens, or it is run up to its first statement that fails, and all that has happened by then stays.
-/

namespace Avenger

/-! ### The start of a session -/

namespace Eval

/-- New names are declared in turn without failure. -/
theorem declareConstants_ok {scope : ScopeId} {world : World}
    {constants : List (String × Value)} (present : scope.index < world.heap.scopes.size)
    (distinct : (constants.map Prod.fst).Nodup)
    (free : ∀ constant ∈ constants, world.heap.binds scope constant.1 = false) :
    ∃ later, declareConstants scope constants world = .ok () later := by
  induction constants generalizing world with
  | nil => exact ⟨world, rfl⟩
  | cons constant rest induction =>
      obtain ⟨name, value⟩ := constant
      obtain ⟨unused, distinct⟩ := List.nodup_cons.mp distinct
      have unbound : world.heap.binds scope name = false := free _ (.head _)
      have declared := Eval.declare_apply scope name value true world
      rw [if_neg (by simp [unbound])] at declared
      rw [Eval.declareConstants, Eval.bind_of_ok declared]
      apply induction _ distinct
      · intro constant member
        have apart : name ≠ constant.1 := by
          rintro rfl
          exact unused (List.mem_map.mpr ⟨constant, member, rfl⟩)
        rw [World.mapHeap_heap, Heap.binds_eq, Heap.binding?_bind present,
          if_neg fun both => apart both.2, ← Heap.binds_eq]
        exact free constant (.tail _ member)
      · simpa [Heap.bind] using present

end Eval

/-- A session starts with a global scope in which everything is declared. -/
theorem Session.start_ok (limits : Limits) (readings : Readings) :
    ∃ scope world, Eval.newGlobalScope limits (World.initial readings .release) =
      .ok scope world ∧ start limits readings = ⟨world, scope⟩ := by
  have free : ∀ constant ∈ Eval.globals 0,
      (opened limits readings).heap.binds ⟨0⟩ constant.1 = false := by
    intro constant _
    rfl
  obtain ⟨world, declared⟩ := Eval.declareConstants_ok
    Nat.zero_lt_one globals_nodup free
  let rooted := (World.initial readings .release).mapHeap (·.addScope (Heap.root limits))
  have counted : Eval.nextInstallation rooted = .ok 0 (opened limits readings) := rfl
  have installed : Eval.install ⟨0⟩ rooted = .ok () world :=
    (Eval.bind_of_ok counted).trans declared
  have entered : Eval.newScope (fun _ => Heap.root limits) (World.initial readings .release) =
      .ok ⟨0⟩ rooted := rfl
  have made : Eval.newGlobalScope limits (World.initial readings .release) = .ok ⟨0⟩ world := by
    unfold Eval.newGlobalScope
    rw [Eval.bind_of_ok entered, Eval.bind_of_ok installed]
    rfl
  refine ⟨⟨0⟩, world, made, ?_⟩
  unfold start
  dsimp only
  rw [made]

/-! ### The failure of a source -/

/-- Statements that fail do so at one of them, and those before it end normally. -/
theorem Stmt.exists_failing {invoke : Invoke} {scope : ScopeId} {statements : List Stmt}
    {last : Value} {world later : World} {stop : Eval.Stop}
    (failed : Stmt.execList invoke statements scope last world = .error stop later) :
    ∃ before statement after value between, statements = before ++ statement :: after ∧
      Stmt.execList invoke before scope last world = .ok (.normal value) between ∧
      statement.exec invoke scope between = .error stop later := by
  induction statements generalizing last world with
  | nil =>
      rw [Stmt.execList] at failed
      cases failed
  | cons statement rest induction =>
      rw [execList_cons] at failed
      rcases Eval.bind_eq_error_iff.mp failed with here | ⟨flow, between, ended, behind⟩
      · exact ⟨[], statement, rest, last, world, rfl, by rw [Stmt.execList]; rfl, here⟩
      · cases flow with
        | normal value =>
            obtain ⟨before, failing, after, value', reached, rfl, first, failed⟩ :=
              induction behind
            refine ⟨statement :: before, failing, after, value', reached, rfl, ?_, failed⟩
            rw [execList_cons, Eval.bind_of_ok ended]
            exact first
        | snap value | endGame => cases behind

namespace Program

variable {program : Program} {scope : ScopeId} {world later : World} {stop : Eval.Stop}

theorem exec_of_eval_error (failed : program.eval scope world = .error stop later) :
    program.exec scope world = .error stop later := by
  rcases Eval.bind_eq_error_iff.mp failed with here | ⟨flow, between, ended, behind⟩
  · exact here
  · cases flow <;> cases behind

/-- A program that fails does so at a statement, run in the world that those before it leave
behind. -/
theorem exists_failing
    (closed : ∀ {id routine}, world.heap.routine? id = some routine →
      routine.closure.index < world.heap.scopes.size)
    (bound : scope.index < world.heap.scopes.size)
    (failed : program.eval scope world = .error stop later) :
    ∃ before statement after value reached, program = before ++ statement :: after ∧
      exec before scope world = .ok (.normal value) reached ∧
      exec [statement] scope reached = .error stop later := by
  have failed := exec_of_eval_error failed
  obtain ⟨before, statement, after, value, reached, rfl, ended, failing⟩ :=
    Stmt.exists_failing failed
  refine ⟨before, statement, after, value, reached, rfl, ended, ?_⟩
  rw [← exec_append closed bound (List.cons_ne_nil statement []) ended]
  refine (Stmt.execList_append ended).trans ?_
  rw [Stmt.execList_cons, Eval.bind_of_error failing]

end Program

namespace Session

/-- How a source fails in a session.  One that is not a program leaves the world as it was.
Otherwise the first statements of the program end normally, and the next one fails in the world
that they leave behind. -/
inductive FailsBy (session : Session) (source : String) : Step Value → Prop where
  | unread {error : SyntaxError} (reading : Program.ofSource source = .error error) :
      FailsBy session source ⟨.error (.reading error), #[], session.world⟩
  | stopped {before after : Program} {statement : Stmt} {value : Value} {reached later : World}
      {error : RuntimeError}
      (reading : Program.ofSource source = .ok (before ++ statement :: after))
      (ended : before.exec session.scope { session.world with output := #[] } =
        .ok (.normal value) reached)
      (failed : Program.exec [statement] session.scope reached = .error (.error error) later) :
      FailsBy session source ⟨.error (.running error), later.output, later⟩

theorem run_fails {session : Session} {source : String} {failure : Failure}
    (closed : ∀ {id routine}, session.world.heap.routine? id = some routine →
      routine.closure.index < session.world.heap.scopes.size)
    (bound : session.scope.index < session.world.heap.scopes.size)
    (failed : (session.run source).result = .error failure) :
    session.FailsBy source (session.run source) := by
  unfold run stepSource at failed ⊢
  cases reading : Program.ofSource source with
  | error error => exact .unread reading
  | ok program =>
      let silent : World := { session.world with output := #[] }
      have closed : ∀ {id routine}, silent.heap.routine? id = some routine →
          routine.closure.index < silent.heap.scopes.size := closed
      have ended := (Program.eval_finishes closed bound program (Nat.le_refl _)).ended
      simp only [reading, Eval.step] at failed ⊢
      cases outcome : program.eval session.scope silent with
      | ok value later =>
          rw [outcome] at failed
          cases failed
      | error stop later =>
          rw [outcome] at ended
          cases ended with
          | error error _ =>
              obtain ⟨before, statement, after, value, reached, rfl, ended, failing⟩ :=
                Program.exists_failing closed bound outcome
              exact .stopped reading ended failing

/-- In every session that has run sources, the functions were defined in scopes of the heap, as
the sources that come next are run in one. -/
theorem afterAll_closed (limits : Limits) (readings : Readings) (sources : List String) :
    (∀ {id routine},
      ((start limits readings).afterAll sources).world.heap.routine? id = some routine →
      routine.closure.index < ((start limits readings).afterAll sources).world.heap.scopes.size) ∧
    ((start limits readings).afterAll sources).scope.index <
      ((start limits readings).afterAll sources).world.heap.scopes.size := by
  obtain ⟨moments, record⟩ := exists_record (start limits readings) installed sources
  obtain ⟨declared, -, member⟩ := record.final
  have invariant := record.invariant (start_invariant limits readings) _ member
  exact ⟨invariant.ordered.closures, invariant.opened _ (.head _)⟩

theorem steps_append (session : Session) (before after : List String) :
    session.steps (before ++ after) =
      session.steps before ++ (session.afterAll before).steps after := by
  induction before generalizing session with
  | nil => rfl
  | cons source before induction =>
      rw [List.cons_append, steps, steps, induction]
      rfl

end Session

end Avenger
