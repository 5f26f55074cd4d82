import Avenger.Proofs.Origin
import Avenger.Proofs.Recoding.Evaluation
import Avenger.Proofs.Relabeling
import Mathlib.Logic.Function.Basic

/-!
# Line numbers only label errors

A run does not look at the lines of statements.  It puts them on errors: every error has the line
of the innermost statement that met it, and nothing around that statement changes it.
-/

namespace Avenger

/-- Replacing lines as a way to write programs. -/
def Recoding.relabeling (lines : Nat → Nat) : Recoding :=
  { line := lines, statement := Stmt.relabel lines, statements := Stmt.listRelabel lines }

theorem Action.relabel_eq (lines : Nat → Nat) (action : Action) :
    action.relabel lines = action.mapParts (Stmt.relabel lines) (Stmt.listRelabel lines) := by
  have clauses (clauses : List Clause) : Clause.listRelabel lines clauses =
      clauses.map (·.mapBody (Stmt.listRelabel lines)) := by
    rw [Clause.listRelabel_eq_map]
    refine List.map_congr_left fun clause _ => ?_
    obtain ⟨test, body⟩ := clause
    rfl
  cases action <;>
    simp only [Action.relabel, Action.mapParts, clauses, Stmt.optionRelabel_eq_map]

theorem Recoding.relabeling_lawful (lines : Nat → Nat) : (relabeling lines).Lawful where
  labelled line action := by
    show Stmt.relabel lines (.mk line action) =
      .mk (lines line) (action.mapParts (Stmt.relabel lines) (Stmt.listRelabel lines))
    rw [Stmt.relabel, Action.relabel_eq]
  nil := rfl
  cons _ _ := .inl rfl

/-- The world with the lines in the bodies of all functions replaced. -/
def World.relabel (world : World) (lines : Nat → Nat) : World :=
  world.mapBodies (Stmt.listRelabel lines)

/-- The end of a run with the line of its error and those in the bodies of functions replaced. -/
def Eval.relabelEnd {α : Type} (lines : Nat → Nat) (result : EStateM.Result Stop World α) :
    EStateM.Result Stop World α :=
  mapEnd lines (Stmt.listRelabel lines) result

/-- A line of a statement in a program or in a function of a world. -/
def Program.HasLine (program : Program) (world : World) (line : Nat) : Prop :=
  line ∈ Stmt.listLines program ∨ ∃ (id : RoutineId) (routine : Routine),
    world.heap.routine? id = some routine ∧ line ∈ Stmt.listLines routine.body

/-- Bodies without any of the lines that are replaced stay what they are. -/
theorem World.relabel_eq_self {world : World} {lines : Nat → Nat}
    (fixed : ∀ {id routine}, world.heap.routine? id = some routine →
      ∀ line ∈ Stmt.listLines routine.body, lines line = line) : world.relabel lines = world := by
  have kept := world.heap.mapBodies_eq_self (Stmt.listRelabel lines) fun found =>
    Stmt.listRelabel_eq_self (fixed found)
  rw [World.relabel, World.mapBodies, kept]

/-- In what way lines matter to a run of a program from a world. -/
structure Program.LinesOnlyLabel {α : Type} (run : Program → ScopeId → Eval α)
    (program : Program) (scope : ScopeId) (world : World) : Prop where
  /-- The run with all lines replaced prints the same and ends in the same way, except that the
  line of an error is replaced. -/
  relabeled : ∀ lines : Nat → Nat,
    run (Stmt.listRelabel lines program) scope (world.relabel lines) =
      Eval.relabelEnd lines (run program scope world)
  /-- An error has a line of the program or of a function. -/
  hasLine : ∀ (error : RuntimeError) (later : World),
    run program scope world = .error (.error error) later →
      ∃ line, error.line = some line ∧ program.HasLine world line
  /-- It is that of a statement which is run on the way and itself raised the fault. -/
  hasOrigin : ∀ (error : RuntimeError) (later : World),
    run program scope world = .error (.error error) later →
      Eval.HasOrigin (run program scope) world error
  /-- If a statement that is run on the way fails, the run fails with the same error on the same
  line. -/
  kept : ∀ {statement : Stmt} {invoke : Invoke} {inner : ScopeId} {start later : World}
    {error : RuntimeError},
    Eval.Within (statement.exec invoke inner) start (run program scope) world →
      statement.exec invoke inner start = .error (.error error) later →
        ∃ last, run program scope world = .error (.error error) last

namespace Program

variable {α : Type} {run : Program → ScopeId → Eval α} {program : Program} {scope : ScopeId}
  {world : World}

/-- A line that is nowhere in the program or in a function is not that of an error: replacing it
alone leaves the program and the functions as they are, but it would change the error. -/
theorem hasLine_of_relabeled
    (relabeled : ∀ lines : Nat → Nat,
      run (Stmt.listRelabel lines program) scope (world.relabel lines) =
        Eval.relabelEnd lines (run program scope world))
    {error : RuntimeError} {later : World} {line : Nat}
    (failed : run program scope world = .error (.error error) later)
    (onLine : error.line = some line) : program.HasLine world line := by
  refine Classical.byContradiction fun absent => ?_
  obtain ⟨notInProgram, notInBody⟩ := not_or.mp absent
  let lines : Nat → Nat := Function.update id line (line + 1)
  have others {other : Nat} (different : other ≠ line) : lines other = other :=
    Function.update_of_ne different _ _
  have sameProgram : Stmt.listRelabel lines program = program :=
    Stmt.listRelabel_eq_self fun other among => others fun same => notInProgram (same ▸ among)
  have sameWorld : world.relabel lines = world :=
    World.relabel_eq_self fun found other among =>
      others fun same => notInBody ⟨_, _, found, same ▸ among⟩
  have again := relabeled lines
  rw [sameProgram, sameWorld, failed] at again
  injection again with stops
  injection stops with errors
  have moved : error.line.map lines = error.line := congrArg RuntimeError.line errors.symm
  rw [onLine, Option.map_some, Option.some.injEq] at moved
  have next : lines line = line + 1 := Function.update_self line _ _
  omega

/-- What has to be known of a way to run programs. -/
theorem linesOnlyLabel
    (mirrors : ∀ lines, Eval.Mirrors (.relabeling lines) (run program scope)
      (run (Stmt.listRelabel lines program) scope))
    (labelled : Eval.Labelled (run program scope)) (traced : Eval.Traced (run program scope)) :
    LinesOnlyLabel run program scope world where
  relabeled lines := mirrors lines world
  hasLine error later failed := by
    obtain ⟨line, onLine⟩ := Option.isSome_iff_exists.mp (labelled world later error failed)
    exact ⟨line, onLine, hasLine_of_relabeled (fun lines => mirrors lines world) failed onLine⟩
  hasOrigin error later failed := by
    have known := labelled world later error failed
    rcases traced world later error failed with unknown | origin
    · rw [unknown] at known
      cases known
    · exact origin
  kept {statement} _ _ _ _ _ within failed := by
    obtain ⟨line, action⟩ := statement
    rw [Stmt.exec] at within failed
    exact within.fails failed (Eval.Labelled.atLine line _ _ _ failed)

/-- Line numbers only label errors, whether a program is run for its flow or for its value. -/
theorem lines_only_label (program : Program) (scope : ScopeId) (world : World) :
    LinesOnlyLabel Program.exec program scope world ∧
      LinesOnlyLabel Program.eval program scope world := by
  have laws := Eval.Traced.compositional
  constructor
  · exact linesOnlyLabel
      (fun lines => .exec (Recoding.relabeling_lawful lines) program scope)
      (.exec program scope) (laws.exec program trivial)
  · exact linesOnlyLabel
      (fun lines => .eval (Recoding.relabeling_lawful lines) program scope)
      (.eval program scope) (laws.program program trivial)

end Program

end Avenger
