import Avenger.Proofs.Recoding.Evaluation

/-!
# Code after a `snap` or an `endGame`

What follows a `snap` or an `endGame` in the same list is never run.  Deleting it everywhere, in
the program and in the functions that the heap holds, changes nothing else that a run does.
-/

namespace Avenger

mutual

/-- A statement without what follows a `snap` or an `endGame` in a list inside it. -/
def Stmt.prune : Stmt → Stmt
  | .mk line action => .mk line action.prune

/-- What a statement does, without what follows a `snap` or an `endGame` in a list inside it. -/
def Action.prune : Action → Action
  | .branch condition body alternatives otherwise =>
      .branch condition (Stmt.listPrune body) (Clause.listPrune alternatives)
        (Stmt.optionPrune otherwise)
  | .loopWhile condition body => .loopWhile condition (Stmt.listPrune body)
  | .loopRange iterator start stop step body =>
      .loopRange iterator start stop step (Stmt.listPrune body)
  | .loopFor header condition modification body =>
      .loopFor header.prune condition modification (Stmt.listPrune body)
  | .multiverse discriminant cases fallback =>
      .multiverse discriminant (Clause.listPrune cases) (Stmt.listPrune fallback)
  | .assemble name parameters body => .assemble name parameters (Stmt.listPrune body)
  | .expression value => .expression value
  | .declare name constant value => .declare name constant value
  | .team name size values => .team name size values
  | .snap value => .snap value
  | .endGame => .endGame

/-- A list up to its first `snap` or `endGame`, with the same done inside its statements. -/
def Stmt.listPrune : List Stmt → List Stmt
  | [] => []
  | statement :: rest =>
      statement.prune :: if statement.leaves then [] else Stmt.listPrune rest

/-- Optional counterpart of `Stmt.listPrune`. -/
def Stmt.optionPrune : Option (List Stmt) → Option (List Stmt)
  | none => none
  | some body => some (Stmt.listPrune body)

/-- Clauses with their bodies pruned. -/
def Clause.listPrune : List Clause → List Clause
  | [] => []
  | .mk test body :: rest => .mk test (Stmt.listPrune body) :: Clause.listPrune rest

end

theorem Stmt.optionPrune_eq_map (statements : Option (List Stmt)) :
    Stmt.optionPrune statements = statements.map Stmt.listPrune := by
  cases statements <;> rfl

theorem Clause.listPrune_eq_map (clauses : List Clause) :
    Clause.listPrune clauses = clauses.map (·.mapBody Stmt.listPrune) := by
  induction clauses with
  | nil => rfl
  | cons clause rest induction =>
      obtain ⟨test, body⟩ := clause
      rw [Clause.listPrune, induction, List.map_cons, Clause.mapBody]

theorem Action.prune_eq (action : Action) :
    action.prune = action.mapParts Stmt.prune Stmt.listPrune := by
  cases action <;>
    simp only [Action.prune, Action.mapParts, Clause.listPrune_eq_map, Stmt.optionPrune_eq_map]

/-- Pruning keeps whether a statement leaves its list. -/
@[simp] theorem Stmt.leaves_prune (statement : Stmt) : statement.prune.leaves = statement.leaves := by
  obtain ⟨line, action⟩ := statement
  cases action <;> rfl

/-- Everything behind a `snap` or an `endGame` is deleted, whatever it is. -/
theorem Stmt.listPrune_append {leaving : Stmt} (leaves : leaving.leaves = true)
    (before after : List Stmt) :
    Stmt.listPrune (before ++ leaving :: after) = Stmt.listPrune (before ++ [leaving]) := by
  induction before with
  | nil => simp [Stmt.listPrune, leaves]
  | cons statement rest induction => simp [Stmt.listPrune, induction]

/-- Nothing is deleted from a list itself if only its last statement may leave it. -/
theorem Stmt.listPrune_eq_map {statements : List Stmt}
    (stays : ∀ statement ∈ statements.dropLast, statement.leaves = false) :
    Stmt.listPrune statements = statements.map Stmt.prune := by
  induction statements with
  | nil => rfl
  | cons statement rest induction =>
      cases rest with
      | nil => simp [Stmt.listPrune]
      | cons next rest =>
          have first : statement.leaves = false := stays statement List.mem_cons_self
          have others := induction fun other among => stays other (List.mem_cons_of_mem _ among)
          rw [Stmt.listPrune, first, others]
          rfl

mutual

/-- There is nothing left to delete after pruning. -/
theorem Stmt.prune_prune (statement : Stmt) : statement.prune.prune = statement.prune := by
  obtain ⟨line, action⟩ := statement
  rw [Stmt.prune, Stmt.prune, Action.prune_prune action]

theorem Action.prune_prune (action : Action) : action.prune.prune = action.prune := by
  cases action with
  | branch condition body alternatives otherwise =>
      rw [Action.prune, Action.prune, Stmt.listPrune_listPrune body,
        Clause.listPrune_listPrune alternatives, Stmt.optionPrune_optionPrune otherwise]
  | loopWhile condition body => rw [Action.prune, Action.prune, Stmt.listPrune_listPrune body]
  | loopRange iterator start stop step body =>
      rw [Action.prune, Action.prune, Stmt.listPrune_listPrune body]
  | loopFor header condition modification body =>
      rw [Action.prune, Action.prune, Stmt.prune_prune header, Stmt.listPrune_listPrune body]
  | multiverse discriminant cases fallback =>
      rw [Action.prune, Action.prune, Clause.listPrune_listPrune cases,
        Stmt.listPrune_listPrune fallback]
  | assemble name parameters body =>
      rw [Action.prune, Action.prune, Stmt.listPrune_listPrune body]
  | expression | declare | team | snap | endGame => rw [Action.prune, Action.prune]

theorem Stmt.listPrune_listPrune (statements : List Stmt) :
    Stmt.listPrune (Stmt.listPrune statements) = Stmt.listPrune statements := by
  match statements with
  | [] => rfl
  | statement :: rest =>
      rw [Stmt.listPrune, Stmt.listPrune, Stmt.prune_prune statement, Stmt.leaves_prune]
      split
      · rfl
      · rw [Stmt.listPrune_listPrune rest]

theorem Stmt.optionPrune_optionPrune (statements : Option (List Stmt)) :
    Stmt.optionPrune (Stmt.optionPrune statements) = Stmt.optionPrune statements := by
  match statements with
  | none => rfl
  | some body => rw [Stmt.optionPrune, Stmt.optionPrune, Stmt.listPrune_listPrune body]

theorem Clause.listPrune_listPrune (clauses : List Clause) :
    Clause.listPrune (Clause.listPrune clauses) = Clause.listPrune clauses := by
  match clauses with
  | [] => rfl
  | .mk test body :: rest =>
      rw [Clause.listPrune, Clause.listPrune, Stmt.listPrune_listPrune body,
        Clause.listPrune_listPrune rest]

end

/-- Pruning as a way to write programs. -/
def Recoding.pruning : Recoding :=
  { line := id, statement := Stmt.prune, statements := Stmt.listPrune }

theorem Recoding.pruning_lawful : Recoding.pruning.Lawful where
  labelled line action := by
    show Stmt.prune (.mk line action) = .mk line (action.mapParts Stmt.prune Stmt.listPrune)
    rw [Stmt.prune, Action.prune_eq]
  nil := rfl
  cons statement rest := by
    show Stmt.listPrune (statement :: rest) = statement.prune :: Stmt.listPrune rest ∨
      statement.leaves = true ∧ Stmt.listPrune (statement :: rest) = [statement.prune]
    rw [Stmt.listPrune]
    cases leaves : statement.leaves with
    | true => exact .inr ⟨rfl, rfl⟩
    | false => exact .inl rfl

/-- How a run ends, with the dead code deleted from the functions that the heap holds then. -/
def Eval.pruneEnd {α : Type} (result : EStateM.Result Eval.Stop World α) :
    EStateM.Result Eval.Stop World α :=
  mapEnd id Stmt.listPrune result

/-- Two programs that are pruned to the same one run alike if each of them mirrors it. -/
theorem Eval.Mirrors.pruneEnd_eq {α : Type} {run pruned : Eval α}
    (mirrors : Mirrors .pruning run pruned) (again : Mirrors .pruning pruned pruned)
    (world : World) : pruneEnd (run world) = pruneEnd (pruned world) :=
  (mirrors world).symm.trans (again world)

/-- Deleting what follows a `snap` or an `endGame`, in the whole program, changes nothing of a
run from any world: it prints the same and ends with the same result or the same error on the
same line, and the heaps differ in nothing but the dead code of the functions made. -/
theorem Program.dead_code_after_leaving (program : Program) (scope : ScopeId) (world : World) :
    Eval.pruneEnd (program.exec scope world) =
        Eval.pruneEnd (Program.exec (Stmt.listPrune program) scope world) ∧
      Eval.pruneEnd (program.eval scope world) =
        Eval.pruneEnd (Program.eval (Stmt.listPrune program) scope world) := by
  have lawful := Recoding.pruning_lawful
  have pruned : Recoding.pruning.statements (Stmt.listPrune program) = Stmt.listPrune program :=
    Stmt.listPrune_listPrune program
  constructor
  · have again := Eval.Mirrors.exec lawful (Stmt.listPrune program) scope
    rw [pruned] at again
    exact (Eval.Mirrors.exec lawful program scope).pruneEnd_eq again world
  · have again := Eval.Mirrors.eval lawful (Stmt.listPrune program) scope
    rw [pruned] at again
    exact (Eval.Mirrors.eval lawful program scope).pruneEnd_eq again world

end Avenger
