import Avenger.Proofs.EndGame.Evaluation
import Avenger.Proofs.Sequence

/-!
# What an endGame can stop

An `endGame` ends the list of statements that it stands in and the branches and headers around
that, up to a loop, a multiverse, a function or the program.  It is a way to end and never
becomes a value that a program can handle.
-/

namespace Avenger

/-- `Clause.Takes invoke scope clauses otherwise world taken later`: of a branch that has come to
these clauses, the body `taken` is run, after its conditions have led to the world `later`. -/
inductive Clause.Takes (invoke : Invoke) (scope : ScopeId) :
    List Clause → Option (List Stmt) → World → List Stmt → World → Prop where
  | here {condition : Expr} {body : List Stmt} {rest : List Clause}
      {otherwise : Option (List Stmt)} {world later : World}
      (holds : condition.test invoke .ifWorthy scope world = .ok true later) :
      Takes invoke scope (.mk condition body :: rest) otherwise world body later
  | next {condition : Expr} {body taken : List Stmt} {rest : List Clause}
      {otherwise : Option (List Stmt)} {world between later : World}
      (fails : condition.test invoke .ifWorthy scope world = .ok false between)
      (takes : Takes invoke scope rest otherwise between taken later) :
      Takes invoke scope (.mk condition body :: rest) otherwise world taken later
  | otherwise {body : List Stmt} {world : World} :
      Takes invoke scope [] (some body) world body world

/-- `Stmt.Breaks invoke statement scope world later`: the statement comes to an `endGame` that
leaves it, in the world `later`.  It is that itself, or it is a branch that takes a body which
ends so, or a loop whose header statement does. -/
inductive Stmt.Breaks (invoke : Invoke) : Stmt → ScopeId → World → World → Prop where
  | endGame {line : Nat} {scope : ScopeId} {world : World} :
      Breaks invoke (.mk line .endGame) scope world world
  | branch {line : Nat} {condition : Expr} {body taken : List Stmt} {alternatives : List Clause}
      {otherwise : Option (List Stmt)} {scope : ScopeId} {world before inside : World}
      (takes : Clause.Takes invoke scope (.mk condition body :: alternatives) otherwise world taken
        before)
      (ends : Stmt.execList invoke taken before.heap.nextScope .null
        (before.mapHeap fun heap => heap.addScope (heap.childOf scope)) = .ok .endGame inside) :
      Breaks invoke (.mk line (.branch condition body alternatives otherwise)) scope world
        (inside.endScope before.heap.nextScope before.heap.routines.size)
  | header {line : Nat} {header : Stmt} {condition modification : Expr} {body : List Stmt}
      {scope : ScopeId} {world inside : World}
      (ends : header.exec invoke world.heap.nextScope
        (world.mapHeap fun heap => heap.addScope (heap.childOf scope)) = .ok .endGame inside) :
      Breaks invoke (.mk line (.loopFor header condition modification body)) scope world
        (inside.endScope world.heap.nextScope world.heap.routines.size)

mutual

/-- Whether a statement has an `endGame` that is not inside a loop body, a multiverse or a
function. -/
def Stmt.mayBreak : Stmt → Bool
  | .mk _ action => action.mayBreak

/-- Counterpart of `Stmt.mayBreak` for what statements do. -/
def Action.mayBreak : Action → Bool
  | .endGame => true
  | .branch _ body alternatives otherwise =>
      Stmt.listMayBreak body || Clause.listMayBreak alternatives || Stmt.optionMayBreak otherwise
  | .loopFor header _ _ _ => header.mayBreak
  | .expression _ | .declare .. | .team .. | .loopWhile .. | .loopRange .. | .multiverse ..
  | .assemble .. | .snap _ => false

/-- List counterpart of `Stmt.mayBreak`. -/
def Stmt.listMayBreak : List Stmt → Bool
  | [] => false
  | statement :: rest => statement.mayBreak || Stmt.listMayBreak rest

/-- Optional counterpart of `Stmt.listMayBreak`. -/
def Stmt.optionMayBreak : Option (List Stmt) → Bool
  | none => false
  | some body => Stmt.listMayBreak body

/-- Whether the body of one of the clauses has such an `endGame`. -/
def Clause.listMayBreak : List Clause → Bool
  | [] => false
  | .mk _ body :: rest => Stmt.listMayBreak body || Clause.listMayBreak rest

end

namespace Eval

/-- A run that never ends with an `endGame`. -/
def Absorbs (run : Eval Flow) : Prop := ∀ world later, run world ≠ .ok .endGame later

namespace Absorbs

variable {α : Type}

theorem normal (value : Value) : Absorbs (Pure.pure (.normal value)) := by
  intro world later ended
  cases ended

theorem snap (value : Value) : Absorbs (Pure.pure (.snap value)) := by
  intro world later ended
  cases ended

theorem fail (fault : Fault) : Absorbs (Eval.fail fault) := by
  intro world later ended
  cases ended

theorem bind {run : Eval α} {next : α → Eval Flow} (second : ∀ value, Absorbs (next value)) :
    Absorbs (run >>= next) := by
  intro world later ended
  obtain ⟨value, between, -, ended⟩ := bind_eq_ok_iff.mp ended
  exact second value between later ended

/-- After a run that never ends with an `endGame`, only the other ways to end matter. -/
theorem after {run : Eval Flow} {next : Flow → Eval Flow} (first : Absorbs run)
    (second : ∀ flow, flow ≠ .endGame → Absorbs (next flow)) : Absorbs (run >>= next) := by
  intro world later ended
  obtain ⟨flow, between, ran, ended⟩ := bind_eq_ok_iff.mp ended
  refine second flow ?_ between later ended
  rintro rfl
  exact first world between ran

theorem atLine {run : Eval Flow} (line : Nat) (inside : Absorbs run) :
    Absorbs (Eval.atLine line run) :=
  fun world later ended => inside world later (atLine_eq_ok_iff.mp ended)

theorem inScope {make : Heap → Scope} {run : ScopeId → Eval Flow}
    (inside : ∀ inner, Absorbs (run inner)) : Absorbs (Eval.inScope make run) := by
  intro world later ended
  obtain ⟨last, ended, -⟩ := inScope_eq_ok_iff.mp ended
  exact inside _ _ _ ended

theorem inChild {scope : ScopeId} {run : ScopeId → Eval Flow}
    (inside : ∀ inner, Absorbs (run inner)) : Absorbs (Eval.inChild scope run) :=
  inScope inside

theorem conditional (limit : Nat) (test : Eval Bool) (turn : Eval Flow) (turns : Nat) :
    Absorbs (Loop.conditional limit test turn turns) := by
  induction turns with
  | zero =>
      refine bind fun goes => ?_
      cases goes with
      | true => exact fail _
      | false => exact normal _
  | succ turns induction =>
      refine bind fun goes => ?_
      cases goes with
      | false => exact normal _
      | true =>
          refine bind fun flow => ?_
          cases flow with
          | normal _ => exact induction
          | snap value => exact snap value
          | endGame => exact normal _

theorem counted (limit : Nat) (range : Range) (turn : Float → Eval Flow) (turns : Nat)
    (count : Float) : Absorbs (Loop.counted limit range turn turns count) := by
  induction turns generalizing count with
  | zero =>
      unfold Loop.counted
      split
      · exact fail _
      · exact normal _
  | succ turns induction =>
      unfold Loop.counted
      split
      · refine bind fun flow => ?_
        cases flow with
        | normal _ => exact induction _
        | snap value => exact snap value
        | endGame => exact normal _
      · exact normal _

end Absorbs

end Eval

open Eval

variable {invoke : Invoke}

mutual

/-- A statement without an `endGame` that could leave it is not left by one. -/
theorem Stmt.exec_absorbs (statement : Stmt) (free : statement.mayBreak = false)
    (scope : ScopeId) : Absorbs (statement.exec invoke scope) := by
  cases statement with
  | mk line action => exact .atLine line (Action.exec_absorbs action free scope)

theorem Action.exec_absorbs (action : Action) (free : action.mayBreak = false)
    (scope : ScopeId) : Absorbs (action.exec invoke scope) := by
  cases action with
  | expression value => exact .bind fun _ => .normal _
  | declare name constant value => exact .bind fun _ => .bind fun _ => .normal _
  | team name size values =>
      exact .bind fun _ => .bind fun _ => .bind fun _ => .bind fun _ => .bind fun _ =>
        .bind fun _ => .normal _
  | branch condition body alternatives otherwise =>
      simp only [Action.mayBreak, Bool.or_eq_false_iff] at free
      obtain ⟨⟨first, others⟩, last⟩ := free
      rw [Action.exec_branch]
      refine .bind fun goes => ?_
      cases goes with
      | true => exact .inChild fun inner => Stmt.execList_absorbs body first inner .null
      | false =>
          refine Clause.execFirst_absorbs alternatives others scope ?_
          cases otherwise with
          | none => exact .normal _
          | some body => exact .inChild fun inner => Stmt.execList_absorbs body last inner .null
  | loopWhile condition body => exact .bind fun _ => .conditional _ _ _ _
  | loopRange iterator start stop step body =>
      exact .bind fun _ => .bind fun _ => .counted _ _ _ _ _
  | loopFor header condition modification body =>
      refine .inChild fun outer => .after (Stmt.exec_absorbs header free outer) fun flow other => ?_
      cases flow with
      | normal _ => exact .bind fun _ => .conditional _ _ _ _
      | snap value => exact .snap value
      | endGame => exact absurd rfl other
  | multiverse discriminant cases fallback =>
      refine .bind fun value => ?_
      split
      · exact .fail _
      · refine .bind fun flow => ?_
        cases flow with
        | normal value => exact .normal value
        | snap value => exact .snap value
        | endGame => exact .normal _
  | assemble name parameters body => exact .bind fun _ => .bind fun _ => .bind fun _ => .normal _
  | snap value => exact .bind fun _ => .snap _
  | endGame => cases free

theorem Stmt.execList_absorbs (statements : List Stmt) (free : Stmt.listMayBreak statements = false)
    (scope : ScopeId) (last : Value) : Absorbs (Stmt.execList invoke statements scope last) := by
  cases statements with
  | nil => exact .normal last
  | cons statement rest =>
      simp only [Stmt.listMayBreak, Bool.or_eq_false_iff] at free
      refine .after (Stmt.exec_absorbs statement free.1 scope) fun flow other => ?_
      cases flow with
      | normal value => exact Stmt.execList_absorbs rest free.2 scope value
      | snap value => exact .snap value
      | endGame => exact absurd rfl other

theorem Clause.execFirst_absorbs (clauses : List Clause)
    (free : Clause.listMayBreak clauses = false)
    (scope : ScopeId) {otherwise : Eval Flow} (last : Absorbs otherwise) :
    Absorbs (Clause.execFirst invoke clauses scope otherwise) := by
  match clauses with
  | [] => exact last
  | .mk condition body :: rest =>
      simp only [Clause.listMayBreak, Bool.or_eq_false_iff] at free
      refine .bind fun goes => ?_
      cases goes with
      | true => exact .inChild fun inner => Stmt.execList_absorbs body free.1 inner .null
      | false => exact Clause.execFirst_absorbs rest free.2 scope last

end

/-- The branch of which the clauses are left ends with an `endGame` exactly if the body that it
takes does. -/
theorem Clause.execFirst_endGame_iff (clauses : List Clause) (otherwise : Option (List Stmt))
    {scope : ScopeId} {world later : World} :
    Clause.execFirst invoke clauses scope
        (match otherwise with
        | some body => Eval.inChild scope fun inner => Stmt.execList invoke body inner .null
        | none => pure (.normal .null)) world = .ok .endGame later ↔
      ∃ taken before, Clause.Takes invoke scope clauses otherwise world taken before ∧
        Eval.inChild scope (fun inner => Stmt.execList invoke taken inner .null) before =
          .ok .endGame later := by
  constructor
  · intro ended
    induction clauses generalizing world with
    | nil =>
        cases otherwise with
        | none => cases ended
        | some body => exact ⟨body, world, .otherwise, ended⟩
    | cons clause rest induction =>
        obtain ⟨condition, body⟩ := clause
        obtain ⟨goes, between, tested, ended⟩ := bind_eq_ok_iff.mp ended
        cases goes with
        | true => exact ⟨body, between, .here tested, ended⟩
        | false =>
            obtain ⟨taken, before, takes, ends⟩ := induction ended
            exact ⟨taken, before, .next tested takes, ends⟩
  · rintro ⟨taken, before, takes, ends⟩
    induction takes with
    | here holds => exact bind_eq_ok_iff.mpr ⟨true, _, holds, ends⟩
    | next fails _ induction => exact bind_eq_ok_iff.mpr ⟨false, _, fails, induction ends⟩
    | otherwise => exact ends

/-- A statement ends with an `endGame` exactly if it comes to one that leaves it. -/
theorem Stmt.exec_endGame_iff (statement : Stmt) {scope : ScopeId} {world later : World} :
    statement.exec invoke scope world = .ok .endGame later ↔
      statement.Breaks invoke scope world later := by
  obtain ⟨line, action⟩ := statement
  have unlabelled : (Stmt.mk line action).exec invoke scope world = .ok .endGame later ↔
      action.exec invoke scope world = .ok .endGame later := atLine_eq_ok_iff
  rw [unlabelled]
  cases action with
  | endGame =>
      constructor
      · rintro ⟨⟩
        exact .endGame
      · rintro ⟨⟩
        rfl
  | branch condition body alternatives otherwise =>
      rw [Action.exec_branch]
      refine (Clause.execFirst_endGame_iff (.mk condition body :: alternatives) otherwise).trans ?_
      constructor
      · rintro ⟨taken, before, takes, ended⟩
        obtain ⟨inside, ends, rfl⟩ := inChild_eq_ok_iff.mp ended
        exact .branch takes ends
      · rintro ⟨⟩
        rename_i ends takes
        exact ⟨_, _, takes, inChild_eq_ok_iff.mpr ⟨_, ends, rfl⟩⟩
  | loopFor header condition modification body =>
      rw [Action.exec, inChild_eq_ok_iff]
      constructor
      · rintro ⟨inside, ended, rfl⟩
        obtain ⟨flow, between, ran, ended⟩ := bind_eq_ok_iff.mp ended
        cases flow with
        | normal _ =>
            obtain ⟨limits, between, -, ended⟩ := bind_eq_ok_iff.mp ended
            exact absurd ended (Absorbs.conditional _ _ _ _ _ _)
        | snap value => cases ended
        | endGame =>
            cases ended
            exact .header ran
      · rintro ⟨⟩
        rename_i ends
        exact ⟨_, bind_eq_ok_iff.mpr ⟨_, _, ends, rfl⟩, rfl⟩
  | expression | declare | team | loopWhile | loopRange | multiverse | assemble | snap =>
      refine iff_of_false (Action.exec_absorbs _ rfl scope world later) ?_
      rintro ⟨⟩

/-- A program is stopped exactly if the first of its statements that does not end normally ends
with an `endGame`. -/
theorem Program.eval_stopped_iff (program : Program) {scope : ScopeId} {world later : World}
    (proper : world.heap.Proper) :
    program.eval scope world = .ok .stopped later ↔
      ∃ before statement after value between, program = before ++ statement :: after ∧
        Program.exec before scope world = .ok (.normal value) between ∧
        statement.exec (invokeWithin world.heap.callBudget) scope between =
          .ok .endGame later := by
  have stopped : program.eval scope world = .ok .stopped later ↔
      program.exec scope world = .ok .endGame later := by
    constructor
    · intro ended
      obtain ⟨flow, between, ran, ended⟩ := bind_eq_ok_iff.mp ended
      obtain ⟨-, -, -, -, -, results⟩ := Contained.program program ⟨world, scope, [], []⟩ rfl proper
      have is := results ran
      cases flow with
      | normal value | snap value =>
          cases ended
          exact absurd rfl is
      | endGame =>
          cases ended
          exact ran
    · exact fun ran => bind_eq_ok_iff.mpr ⟨.endGame, later, ran, rfl⟩
  exact stopped.trans (Stmt.execList_leaves_iff (by simp))

/-- No expression, no argument and no result of a function is the value of a stopped program,
and at no moment of a run does the heap hold it.  A statement ends with an `endGame` only if it
comes to one that leaves it, a program is stopped only by such a statement, and one whose every
`endGame` is inside a loop body, a multiverse or a function never ends its list. -/
theorem endGame_stays_inside :
    (∀ (calls : Nat) (scope : ScopeId),
      (∀ expression : Expr,
        Contained scope Value.Proper (expression.eval (invokeWithin calls) scope)) ∧
      (∀ expressions : List Expr,
        Contained scope (∀ value ∈ ·, value.Proper)
          (Expr.evalList (invokeWithin calls) scope expressions)) ∧
      (∀ (callee : Value) (arguments : List Value), (∀ argument ∈ arguments, argument.Proper) →
        Contained scope Value.Proper (callee.call (invokeWithin calls) arguments scope)) ∧
      ∀ statement : Stmt,
        Contained scope Flow.Proper (statement.exec (invokeWithin calls) scope)) ∧
    (∀ (program : Program) (scope : ScopeId),
      Contained scope Flow.Proper (program.exec scope) ∧
        Contained scope (fun _ => True) (program.eval scope)) ∧
    (∀ (program : Program) (scope : ScopeId) (world later : World), world.heap.Proper →
      (program.eval scope world = .ok .stopped later ↔
        ∃ before statement after value between, program = before ++ statement :: after ∧
          Program.exec before scope world = .ok (.normal value) between ∧
          statement.exec (invokeWithin world.heap.callBudget) scope between =
            .ok .endGame later)) ∧
    ∀ (invoke : Invoke) (scope : ScopeId) (world later : World),
      (∀ statement : Stmt, statement.exec invoke scope world = .ok .endGame later ↔
        statement.Breaks invoke scope world later) ∧
      (∀ statement : Stmt, statement.mayBreak = false →
        statement.exec invoke scope world ≠ .ok .endGame later) ∧
      ∀ (statements : List Stmt) (last : Value),
        Stmt.execList invoke statements scope last world = .ok .endGame later →
        ∃ before statement after value between, statements = before ++ statement :: after ∧
          Stmt.execList invoke before scope last world = .ok (.normal value) between ∧
          statement.Breaks invoke scope between later ∧ statement.mayBreak = true := by
  refine ⟨fun calls scope => ?_, fun program scope => ?_, fun program scope world later proper =>
    program.eval_stopped_iff proper, fun invoke scope world later => ?_⟩
  · have within := Contained.Calls.within calls
    exact ⟨within.expression, within.expressions, fun callee arguments are =>
      within.value callee are, within.statement⟩
  · refine ⟨Contained.program program, (Contained.program program).bind fun flow _ => ?_⟩
    cases flow <;> exact .pure trivial
  · refine ⟨fun statement => statement.exec_endGame_iff,
      fun statement free => statement.exec_absorbs free scope world later,
      fun statements last ended => ?_⟩
    obtain ⟨before, statement, after, value, between, split, first, left⟩ :=
      (Stmt.execList_leaves_iff (by simp)).mp ended
    refine ⟨before, statement, after, value, between, split, first,
      statement.exec_endGame_iff.mp left, ?_⟩
    by_contra free
    exact statement.exec_absorbs (Bool.eq_false_iff.mpr free) scope between later left

/-- An `endGame` in a loop stops the loop and one behind it stops the program. -/
theorem endGame_stays_inside_loop :
    let world : World := (World.initial (Readings.seeded 0 0) .keep).mapHeap
      (·.addScope (Heap.root { iterations := 1, callDepth := 1 }))
    let loop : Stmt :=
      .mk 1 (.loopWhile (.comparison .equal (.text "a") (.text "a")) [.mk 1 .endGame])
    loop.mayBreak = false ∧
      ∃ later, Program.eval [loop, .mk 2 .endGame, .mk 3 (.snap none)] ⟨0⟩ world =
        .ok .stopped later := by
  intro world loop
  have proper : world.heap.Proper := Heap.Proper.empty.addScope (List.forall_mem_nil _)
  obtain ⟨later, ran⟩ : ∃ later, Program.exec [loop] ⟨0⟩ world = .ok (.normal .null) later :=
    ⟨_, rfl⟩
  refine ⟨rfl, later, (endGame_stays_inside.2.2.1 _ ⟨0⟩ world later proper).mpr ?_⟩
  exact ⟨[loop], .mk 2 .endGame, [.mk 3 (.snap none)], .null, later, rfl, ran, rfl⟩

end Avenger
