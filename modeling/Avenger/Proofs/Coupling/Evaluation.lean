import Avenger.Proofs.Coupling.Primitive

/-!
# Whole runs in step

Two runs of the same code stay in step under every coupling: expressions, statements and
loops by induction on their form, and calls by induction on the budget.
-/

namespace Avenger.Coupling

variable {coupling : Coupling} {stage : coupling.Stage}

/-- Calls that stay in step when the given number of calls is active. -/
structure Calls (coupling : Coupling) (depth : Nat) (left right : Invoke) : Prop where
  gradual : ∀ id arguments caller, (right id arguments caller).Gradual
  coupled : ∀ {stage id id' arguments arguments'}, coupling.depth stage = depth →
    coupling.routines id id' → List.Forall₂ coupling.Values arguments arguments' →
    coupling.Coupled stage coupling.Values (left id arguments (coupling.left stage))
      (right id' arguments' (coupling.right stage))

section Loops

/-- Bounds of a loop that let the right run make at least as many turns as the left one. -/
def Bounds (coupling : Coupling) (limit limit' turns turns' : Nat) : Prop :=
  limit = limit' ∧ turns = turns' ∨
    turns ≤ turns' ∧ coupling.yields (.tooManyTurns limit)

theorem Turns.bounds {limits limits' : Limits} (turns : coupling.Turns limits limits') :
    coupling.Bounds limits.iterations limits'.iterations limits.iterations
      limits'.iterations := by
  cases turns with
  | inl same => exact .inl ⟨same, same⟩
  | inr larger => exact .inr ⟨Nat.le_of_lt larger.1, larger.2⟩

variable {limit limit' turns turns' : Nat}

theorem Bounds.next (bounds : coupling.Bounds limit limit' (turns + 1) (turns' + 1)) :
    coupling.Bounds limit limit' turns turns' := by
  cases bounds with
  | inl same => exact .inl ⟨same.1, Nat.succ.inj same.2⟩
  | inr larger => exact .inr ⟨Nat.le_of_succ_le_succ larger.1, larger.2⟩

theorem Bounds.exhausted (lawful : coupling.Lawful) {α β : Type} {results : α → β → Prop}
    {rest : Eval β} (bounds : coupling.Bounds limit limit' 0 turns')
    (gradual : rest.Gradual) (same : turns' = 0 → rest = Eval.fail (.tooManyTurns limit')) :
    coupling.Coupled stage results (Eval.fail (.tooManyTurns limit)) rest := by
  cases bounds with
  | inl equal =>
      rw [same equal.2.symm, equal.1]
      exact .fail _
  | inr larger => exact .spared lawful larger.2 gradual

/-- What a loop does after a turn, in both runs. -/
theorem turn {turn turn' rest rest' : Eval Flow}
    (turns : coupling.Coupled stage coupling.Flows turn turn') (gradual : rest'.Gradual)
    (rests : coupling.Coupled stage coupling.Flows rest rest') :
    coupling.Coupled stage coupling.Flows
      (do
        match ← turn with
        | .normal _ => rest
        | .endGame => return .normal .null
        | .snap value => return .snap value)
      (do
        match ← turn' with
        | .normal _ => rest'
        | .endGame => return .normal .null
        | .snap value => return .snap value) := by
  refine turns.bind (fun flow => by cases flow <;> simp [gradual]) ?_
  intro flow flow' related
  cases related with
  | normal _ => exact rests
  | endGame => exact .pure (.normal .null)
  | snap related => exact .pure (.snap related)

/-- The body of a loop with what is evaluated behind it, in both runs. -/
theorem modified {body body' : Eval Flow} {modification modification' : Eval Value}
    (bodies : coupling.Coupled stage coupling.Flows body body')
    (gradual : modification'.Gradual)
    (modifications : coupling.Coupled stage coupling.Values modification modification') :
    coupling.Coupled stage coupling.Flows
      (do
        match ← body with
        | .normal value =>
            let _ ← modification
            return .normal value
        | flow => return flow)
      (do
        match ← body' with
        | .normal value =>
            let _ ← modification'
            return .normal value
        | flow => return flow) := by
  refine bodies.bind (fun flow => by cases flow <;> simp [gradual]) ?_
  intro flow flow' flows
  cases flows with
  | normal related => exact modifications.map fun _ => .normal related
  | snap related => exact .pure (.snap related)
  | endGame => exact .pure .endGame

theorem conditional (lawful : coupling.Lawful) {test test' : Eval Bool}
    {turn turn' : Eval Flow} (bounds : coupling.Bounds limit limit' turns turns')
    (tests : coupling.Coupled stage (· = ·) test test')
    (bodies : coupling.Coupled stage coupling.Flows turn turn')
    (testGradual : test'.Gradual) (turnGradual : turn'.Gradual) :
    coupling.Coupled stage coupling.Flows (Loop.conditional limit test turn turns)
      (Loop.conditional limit' test' turn' turns') := by
  have rest : ∀ left, (Loop.conditional limit' test' turn' left).Gradual :=
    Loop.conditional_gradual testGradual turnGradual
  have next : ∀ left, (do
      match ← turn' with
      | .normal _ => Loop.conditional limit' test' turn' left
      | .endGame => return .normal .null
      | .snap value => return .snap value : Eval Flow).Gradual :=
    fun left => turnGradual.bind fun flow => by cases flow <;> simp [rest]
  induction turns generalizing turns' with
  | zero =>
      cases turns' with
      | zero =>
          exact tests.branch (.fail _) (.pure _)
            (bounds.exhausted lawful (.fail _) fun _ => rfl) (.pure (.normal .null))
      | succ turns' =>
          exact tests.branch (next turns') (.pure _)
            (bounds.exhausted lawful (next turns') fun impossible => nomatch impossible)
            (.pure (.normal .null))
  | succ turns induction =>
      cases turns' with
      | zero =>
          exfalso
          cases bounds with
          | inl same => exact Nat.succ_ne_zero turns same.2
          | inr larger => exact Nat.not_succ_le_zero turns larger.1
      | succ turns' =>
          exact tests.branch (next turns') (.pure _)
            (Coupling.turn bodies (rest turns') (induction bounds.next))
            (.pure (.normal .null))

theorem counted (lawful : coupling.Lawful) {range : Range} {turn turn' : Float → Eval Flow}
    (bounds : coupling.Bounds limit limit' turns turns')
    (bodies : ∀ count, coupling.Coupled stage coupling.Flows (turn count) (turn' count))
    (gradual : ∀ count, (turn' count).Gradual) (count : Float) :
    coupling.Coupled stage coupling.Flows (Loop.counted limit range turn turns count)
      (Loop.counted limit' range turn' turns' count) := by
  have rest : ∀ left count, (Loop.counted limit' range turn' left count).Gradual :=
    Loop.counted_gradual gradual
  induction turns generalizing turns' count with
  | zero =>
      cases turns' with
      | zero =>
          unfold Loop.counted
          split
          · exact bounds.exhausted lawful (.fail _) fun _ => rfl
          · exact .pure (.normal .null)
      | succ turns' =>
          unfold Loop.counted
          split
          · refine bounds.exhausted lawful ?_ fun impossible =>
              absurd impossible (Nat.succ_ne_zero turns')
            exact (gradual count).bind fun flow => by cases flow <;> simp [rest]
          · exact .pure (.normal .null)
  | succ turns induction =>
      cases turns' with
      | zero =>
          exfalso
          cases bounds with
          | inl same => exact Nat.succ_ne_zero turns same.2
          | inr larger => exact Nat.not_succ_le_zero turns larger.1
      | succ turns' =>
          unfold Loop.counted
          split
          · exact Coupling.turn (bodies count) (rest turns' _) (induction bounds.next _)
          · exact .pure (.normal .null)

end Loops

section Expressions

variable {depth : Nat} {invoke invoke' : Invoke}

theorem callValue (lawful : coupling.Lawful) (calls : coupling.Calls depth invoke invoke')
    (level : coupling.depth stage = depth) {callee callee' : Value}
    {arguments arguments' : List Value} (callees : coupling.Values callee callee')
    (related : List.Forall₂ coupling.Values arguments arguments') :
    coupling.Coupled stage coupling.Values
      (callee.call invoke arguments (coupling.left stage))
      (callee'.call invoke' arguments' (coupling.right stage)) := by
  cases callees with
  | native function => exact native lawful function related
  | routine routines => exact calls.coupled level routines related
  | null | number | boolean | text | team | stopped => exact .fail _

mutual

/-- The value of an expression is the same in both runs, up to places. -/
theorem expression (lawful : coupling.Lawful) (calls : coupling.Calls depth invoke invoke')
    (level : coupling.depth stage = depth) (expression : Expr) :
    coupling.Coupled stage coupling.Values
      (expression.eval invoke (coupling.left stage))
      (expression.eval invoke' (coupling.right stage)) := by
  have gradual := Expr.eval_gradual calls.gradual (coupling.right stage)
  cases expression with
  | number value => exact .pure (.number value)
  | text value => exact .pure (.text value)
  | null => exact .pure .null
  | name identifier => exact lookup lawful identifier
  | arithmetic operator left right =>
      refine (Coupling.expression lawful calls level left).bind
        (fun _ => (gradual right).bind (by simp)) ?_
      intro left left' lefts
      refine (Coupling.expression lawful calls level right).bind (by simp) ?_
      intro right right' rights
      refine Coupled.bind (Coupled.readHeap lawful.limits) (by simp) ?_
      intro limits limits' turns
      exact .ofExcept lawful (arithmetic turns operator lefts rights)
  | comparison operator left right =>
      refine (Coupling.expression lawful calls level left).bind
        (fun _ => (gradual right).bind (by simp)) ?_
      intro left left' lefts
      exact (Coupling.expression lawful calls level right).map (compare operator lefts)
  | connective operator left right =>
      refine (Coupling.expression lawful calls level left).bind
        (fun _ => (gradual right).bind (by simp)) ?_
      intro left left' lefts
      exact (Coupling.expression lawful calls level right).map (connect operator lefts)
  | not operand => exact (Coupling.expression lawful calls level operand).map not
  | minus operand =>
      refine (Coupling.expression lawful calls level operand).bind (by simp) ?_
      intro operand operand' related
      exact .ofExcept lawful (minus related)
  | assign target value =>
      unfold Expr.eval
      split
      · refine (Coupling.expression lawful calls level value).bind (by simp) ?_
        intro value value' related
        exact assign lawful _ related
      · rename_i object index
        refine (Coupling.expression lawful calls level object).bind ?_ ?_
        · intro base
          refine (gradual index).bind fun index => (gradual value).bind fun value => ?_
          split <;> simp
        intro base base' bases
        refine (Coupling.expression lawful calls level index).bind ?_ ?_
        · refine fun index => (gradual value).bind fun value => ?_
          split <;> simp
        intro index index' indices
        refine (Coupling.expression lawful calls level value).bind ?_ ?_
        · intro value
          split <;> simp
        intro value value' related
        cases bases with
        | team teams => exact writeElement lawful teams indices related
        | text content =>
            cases object with
            | name identifier =>
                exact writeCharacter lawful identifier content indices related
            | _ => exact .fail _
        | null | number | boolean | routine | native | stopped => exact .fail _
      · exact .fail _
  | update operator target value =>
      unfold Expr.eval
      split
      · rename_i identifier
        refine (lookup lawful identifier).bind ?_ ?_
        · refine fun current => (gradual value).bind fun value => ?_
          split <;> simp
        intro current current' currents
        refine (Coupling.expression lawful calls level value).bind ?_ ?_
        · intro value
          split <;> simp
        intro value value' related
        cases currents with
        | number left =>
            cases related with
            | number right => exact assign lawful identifier (.number _)
            | _ => exact .fail _
        | _ => cases related <;> exact .fail _
      · exact .fail _
  | member object index =>
      refine (Coupling.expression lawful calls level object).bind
        (fun _ => (gradual index).bind (by simp)) ?_
      intro object object' objects
      refine (Coupling.expression lawful calls level index).bind (by simp) ?_
      intro index index' indices
      refine Coupled.bind
        (Coupled.readHeap fun worlds => member lawful worlds objects indices) (by simp) ?_
      intro found found' agree
      exact .ofExcept lawful agree
  | call callee arguments =>
      refine (Coupling.expression lawful calls level callee).bind ?_ ?_
      · refine fun callee =>
          (Expr.evalList_gradual calls.gradual _ arguments).bind fun arguments => ?_
        exact callee.call_gradual calls.gradual _ _
      intro callee callee' callees
      refine (Coupling.expressions lawful calls level arguments).bind
        (fun arguments => callee'.call_gradual calls.gradual _ _) ?_
      intro arguments arguments' related
      exact callValue lawful calls level callees related

/-- List counterpart of `Coupling.expression`. -/
theorem expressions (lawful : coupling.Lawful)
    (calls : coupling.Calls depth invoke invoke') (level : coupling.depth stage = depth)
    (expressions : List Expr) :
    coupling.Coupled stage (List.Forall₂ coupling.Values)
      (Expr.evalList invoke (coupling.left stage) expressions)
      (Expr.evalList invoke' (coupling.right stage) expressions) := by
  cases expressions with
  | nil => exact .pure .nil
  | cons expression rest =>
      refine (Coupling.expression lawful calls level expression).bind
        (fun _ => (Expr.evalList_gradual calls.gradual _ rest).bind (by simp)) ?_
      intro value value' head
      exact (Coupling.expressions lawful calls level rest).map fun tail => .cons head tail

end

theorem optional (lawful : coupling.Lawful) (calls : coupling.Calls depth invoke invoke')
    (level : coupling.depth stage = depth) (expression : Option Expr) :
    coupling.Coupled stage coupling.Values
      (Expr.evalOption invoke (coupling.left stage) expression)
      (Expr.evalOption invoke' (coupling.right stage) expression) := by
  cases expression with
  | none => exact .pure .null
  | some expression => exact Coupling.expression lawful calls level expression

theorem condition (lawful : coupling.Lawful) (calls : coupling.Calls depth invoke invoke')
    (level : coupling.depth stage = depth) (construct : Construct) (condition : Expr) :
    coupling.Coupled stage (· = ·)
      (condition.test invoke construct (coupling.left stage))
      (condition.test invoke' construct (coupling.right stage)) := by
  refine (expression lawful calls level condition).bind ?_ ?_
  · intro value
    split <;> simp
  intro value value' related
  rw [related.truth_eq, related.kind_eq]
  split
  · exact .pure rfl
  · exact .fail _

theorem rangePart (lawful : coupling.Lawful) (calls : coupling.Calls depth invoke invoke')
    (level : coupling.depth stage = depth) (part : RangePart) (bound : Expr) :
    coupling.Coupled stage (· = ·) (bound.rangePart invoke part (coupling.left stage))
      (bound.rangePart invoke' part (coupling.right stage)) := by
  refine (expression lawful calls level bound).bind ?_ ?_
  · intro value
    split <;> simp
  intro value value' related
  cases related with
  | number value => exact .pure rfl
  | _ => exact .fail _

theorem stepPart (lawful : coupling.Lawful) (calls : coupling.Calls depth invoke invoke')
    (level : coupling.depth stage = depth) (step : Option Expr) :
    coupling.Coupled stage (· = ·) (Expr.stepPart invoke (coupling.left stage) step)
      (Expr.stepPart invoke' (coupling.right stage) step) := by
  cases step with
  | none => exact .pure rfl
  | some step => exact rangePart lawful calls level .step step

theorem range (lawful : coupling.Lawful) (calls : coupling.Calls depth invoke invoke')
    (level : coupling.depth stage = depth) (start stop : Expr) (step : Option Expr) :
    coupling.Coupled stage (· = ·)
      (Expr.range invoke (coupling.left stage) start stop step)
      (Expr.range invoke' (coupling.right stage) start stop step) := by
  have checked : ∀ start stop step : Float,
      (if 0 < step then pure { start, stop, step }
        else Eval.fail (.stepInvalid step) : Eval Range).Gradual := by
    intro start stop step
    split <;> simp
  have finished := fun start stop =>
    (Expr.stepPart_gradual calls.gradual (coupling.right stage) step).bind
      (checked start stop)
  rw [Expr.range_eq, Expr.range_eq]
  refine (rangePart lawful calls level .start start).bind
    (fun start => (stop.rangePart_gradual calls.gradual .stop _).bind (finished start)) ?_
  rintro start _ rfl
  refine (rangePart lawful calls level .stop stop).bind (finished start) ?_
  rintro stop _ rfl
  refine (stepPart lawful calls level step).bind (checked start stop) ?_
  rintro step _ rfl
  split
  · exact .pure rfl
  · exact .fail _

end Expressions

section Statements

variable {depth : Nat} {invoke invoke' : Invoke}

/-- A team is made of related values and declared in both runs. -/
theorem declareTeam (lawful : coupling.Lawful) (declaring : coupling.declaring stage)
    (name : String) (size : Nat) {values values' : List Value}
    (related : List.Forall₂ coupling.Values values values') :
    coupling.Coupled stage coupling.Flows
      (do
        Eval.reserve (coupling.left stage) name
        let team ← Eval.newTeam (Team.make name size values)
        return .normal (← Eval.declare (coupling.left stage) name team false))
      (do
        Eval.reserve (coupling.right stage) name
        let team ← Eval.newTeam (Team.make name size values')
        return .normal (← Eval.declare (coupling.right stage) name team false)) := by
  refine (reserve lawful declaring name).bind
    (fun _ => (Eval.Gradual.newTeam _).bind (by simp)) ?_
  intro _ _ _
  refine (newTeam lawful name size related).bind (by simp) ?_
  intro team team' teams
  exact (declare lawful declaring name teams false).map .normal

mutual

/-- A statement ends in the same way in both runs. -/
theorem statement (lawful : coupling.Lawful) (calls : coupling.Calls depth invoke invoke')
    (statement : Stmt) {stage : coupling.Stage} (level : coupling.depth stage = depth)
    (declaring : coupling.declaring stage) :
    coupling.Coupled stage coupling.Flows
      (statement.exec invoke (coupling.left stage))
      (statement.exec invoke' (coupling.right stage)) := by
  cases statement with
  | mk line action => exact (Coupling.action lawful calls action level declaring).atLine line

/-- Counterpart of `Coupling.statement` for what statements do. -/
theorem action (lawful : coupling.Lawful) (calls : coupling.Calls depth invoke invoke')
    (action : Action) {stage : coupling.Stage} (level : coupling.depth stage = depth)
    (declaring : coupling.declaring stage) :
    coupling.Coupled stage coupling.Flows
      (action.exec invoke (coupling.left stage))
      (action.exec invoke' (coupling.right stage)) := by
  cases action with
  | expression value => exact (expression lawful calls level value).map .normal
  | declare name constant value =>
      refine (optional lawful calls level value).bind (by simp) ?_
      intro value value' related
      exact (declare lawful declaring name related constant).map .normal
  | team name size values =>
      have declared : ∀ (size : Nat) (values : List Value), (do
          Eval.reserve (coupling.right stage) name
          let team ← Eval.newTeam (Team.make name size values)
          return .normal (← Eval.declare (coupling.right stage) name team false) :
          Eval Flow).Gradual :=
        fun size values => (Eval.Gradual.reserve _ name).bind fun _ =>
          (Eval.Gradual.newTeam _).bind (by simp)
      refine (expression lawful calls level size).bind
        (fun _ => (Eval.Gradual.ofExcept _).bind fun size =>
          (Expr.evalList_gradual calls.gradual _ values).bind (declared size)) ?_
      intro size size' sizes
      have checked : Team.size name values.length size =
          Team.size name values.length size' := by
        cases sizes <;> rfl
      rw [checked]
      refine Coupled.check fun size => ?_
      exact (expressions lawful calls level values).bind (declared size)
        (declareTeam lawful declaring name size)
  | branch condition body alternatives otherwise =>
      rw [Action.exec_branch, Action.exec_branch]
      have rest : (match otherwise with
          | some body => Eval.inChild (coupling.right stage) fun inner =>
              Stmt.execList invoke' body inner .null
          | none => pure (.normal .null) : Eval Flow).Gradual := by
        cases otherwise <;> simp [Stmt.execList_gradual calls.gradual]
      refine (Coupling.condition lawful calls level .ifWorthy condition).branch
        (.inChild _ fun inner => Stmt.execList_gradual calls.gradual body inner .null)
        (Clause.execFirst_gradual calls.gradual alternatives _ rest)
        (inChild lawful declaring fun inner same declaring =>
          Coupling.statements lawful calls body (same.trans level) declaring .null)
        (Coupling.firstClause lawful calls alternatives level declaring rest ?_)
      cases otherwise with
      | none => exact .pure (.normal .null)
      | some body =>
          exact inChild lawful declaring fun inner same declaring =>
            Coupling.statements lawful calls body (same.trans level) declaring .null
  | loopWhile condition body =>
      have tests := condition.test_gradual calls.gradual .fightUntil (coupling.right stage)
      have bodies := Eval.Gradual.inChild (coupling.right stage) fun inner =>
        Stmt.execList_gradual calls.gradual body inner .null
      refine Coupled.bind (Coupled.readHeap lawful.limits)
        (fun limits => Loop.conditional_gradual tests bodies _) ?_
      intro limits limits' turns
      exact conditional lawful turns.bounds
        (Coupling.condition lawful calls level .fightUntil condition)
        (inChild lawful declaring fun inner same declaring =>
          Coupling.statements lawful calls body (same.trans level) declaring .null)
        tests bodies
  | loopRange iterator start stop step body =>
      have bodies : ∀ count : Float, (Eval.inScope
          (fun heap => (heap.childOf (coupling.right stage)).bind
            ⟨iterator, .number count, false⟩)
          fun inner => Stmt.execList invoke' body inner .null).Gradual :=
        fun count => .inScope fun inner =>
          Stmt.execList_gradual calls.gradual body inner .null
      refine (range lawful calls level start stop step).bind
        (fun range => (Eval.Gradual.readHeap _).bind fun limits =>
          Loop.counted_gradual bodies _ _) ?_
      rintro range _ rfl
      refine Coupled.bind (Coupled.readHeap lawful.limits)
        (fun limits => Loop.counted_gradual bodies _ _) ?_
      intro limits limits' turns
      refine counted lawful turns.bounds (fun count => ?_) bodies range.start
      exact inBound lawful declaring [⟨iterator, .number count, false⟩] (by simp [Value.Alike.number])
        fun inner same declaring =>
          Coupling.statements lawful calls body (same.trans level) declaring .null
  | loopFor header condition modification body =>
      rw [Action.exec, Action.exec]
      refine inChild lawful declaring fun outer same declaring => ?_
      have level := same.trans level
      have bodies : (do
          match ← Eval.inChild (coupling.right outer) fun inner =>
              Stmt.execList invoke' body inner .null with
          | .normal value =>
              let _ ← modification.eval invoke' (coupling.right outer)
              return .normal value
          | flow => return flow : Eval Flow).Gradual := by
        refine Eval.Gradual.bind (.inChild _ fun inner =>
          Stmt.execList_gradual calls.gradual body inner .null) fun flow => ?_
        cases flow <;> simp [Expr.eval_gradual calls.gradual]
      have tests := condition.test_gradual calls.gradual .wakandaFor (coupling.right outer)
      have loops : ∀ limits : Limits, (Loop.conditional limits.iterations
          (condition.test invoke' .wakandaFor (coupling.right outer)) _
          limits.iterations).Gradual :=
        fun limits => Loop.conditional_gradual tests bodies _
      refine (Coupling.statement lawful calls header level declaring).bind ?_ ?_
      · intro flow
        cases flow with
        | normal value => exact (Eval.Gradual.readHeap _).bind loops
        | _ => exact .pure _
      intro flow flow' flows
      cases flows with
      | snap related => exact .pure (.snap related)
      | endGame => exact .pure .endGame
      | normal related =>
          refine Coupled.bind (Coupled.readHeap lawful.limits) loops ?_
          intro limits limits' turns
          refine conditional lawful turns.bounds
            (Coupling.condition lawful calls level .wakandaFor condition) ?_ tests bodies
          exact modified (inChild lawful declaring fun inner same declaring =>
              Coupling.statements lawful calls body (same.trans level) declaring .null)
            (Expr.eval_gradual calls.gradual _ modification)
            (expression lawful calls level modification)
  | multiverse discriminant cases fallback =>
      have fallbacks := fun inner => Stmt.execList_gradual calls.gradual fallback inner .null
      refine (expression lawful calls level discriminant).bind ?_ ?_
      · intro value
        split
        · exact .fail _
        · refine Eval.Gradual.bind (.inChild _ fun inner =>
            Clause.execMatching_gradual calls.gradual value cases inner (fallbacks inner))
            fun flow => ?_
          split <;> simp
      intro value value' related
      rw [related.kind_eq]
      split
      · exact .fail _
      · next kinds =>
          refine Coupled.bind (inChild lawful declaring fun inner same declaring =>
            Coupling.matchingClause lawful calls related ?_ cases (same.trans level)
              declaring (fallbacks _)
              (Coupling.statements lawful calls fallback (same.trans level) declaring
                .null)) ?_ ?_
          · rw [related.kind_eq]
            simpa [or_iff_not_imp_left] using kinds
          · intro flow
            cases flow <;> simp
          intro flow flow' flows
          cases flows with
          | normal related => exact .pure (.normal related)
          | snap related => exact .pure (.snap related)
          | endGame => exact .pure (.normal .null)
  | assemble name parameters body =>
      refine (reserve lawful declaring name).bind
        (fun _ => (Eval.Gradual.newRoutine _).bind (by simp)) ?_
      intro _ _ _
      refine (newRoutine lawful declaring name parameters body).bind (by simp) ?_
      intro routine routine' routines
      exact (declare lawful declaring name routines false).map .normal
  | snap value => exact (optional lawful calls level value).map .snap
  | endGame => exact .pure .endGame

/-- List counterpart of `Coupling.statement`. -/
theorem statements (lawful : coupling.Lawful) (calls : coupling.Calls depth invoke invoke')
    (statements : List Stmt) {stage : coupling.Stage}
    (level : coupling.depth stage = depth) (declaring : coupling.declaring stage)
    {last last' : Value} (related : coupling.Values last last') :
    coupling.Coupled stage coupling.Flows
      (Stmt.execList invoke statements (coupling.left stage) last)
      (Stmt.execList invoke' statements (coupling.right stage) last') := by
  cases statements with
  | nil => exact .pure (.normal related)
  | cons statement rest =>
      refine (Coupling.statement lawful calls statement level declaring).bind ?_ ?_
      · intro flow
        cases flow <;> simp [Stmt.execList_gradual calls.gradual]
      intro flow flow' flows
      cases flows with
      | normal related => exact Coupling.statements lawful calls rest level declaring related
      | snap related => exact .pure (.snap related)
      | endGame => exact .pure .endGame

theorem firstClause (lawful : coupling.Lawful)
    (calls : coupling.Calls depth invoke invoke') (clauses : List Clause)
    {stage : coupling.Stage} (level : coupling.depth stage = depth)
    (declaring : coupling.declaring stage) {otherwise otherwise' : Eval Flow} (gradual : otherwise'.Gradual)
    (rest : coupling.Coupled stage coupling.Flows otherwise otherwise') :
    coupling.Coupled stage coupling.Flows
      (Clause.execFirst invoke clauses (coupling.left stage) otherwise)
      (Clause.execFirst invoke' clauses (coupling.right stage) otherwise') := by
  cases clauses with
  | nil => exact rest
  | cons clause clauses =>
      cases clause with
      | mk condition body =>
          exact (Coupling.condition lawful calls level .ifWorthy condition).branch
            (.inChild _ fun inner => Stmt.execList_gradual calls.gradual body inner .null)
            (Clause.execFirst_gradual calls.gradual clauses _ gradual)
            (inChild lawful declaring fun inner same declaring =>
              Coupling.statements lawful calls body (same.trans level) declaring .null)
            (Coupling.firstClause lawful calls clauses level declaring gradual rest)

theorem matchingClause (lawful : coupling.Lawful)
    (calls : coupling.Calls depth invoke invoke') {value value' : Value}
    (related : coupling.Values value value')
    (kinds : value.kind = .number ∨ value.kind = .text) (clauses : List Clause)
    {stage : coupling.Stage} (level : coupling.depth stage = depth)
    (declaring : coupling.declaring stage) {fallback fallback' : Eval Flow}
    (gradual : fallback'.Gradual)
    (rest : coupling.Coupled stage coupling.Flows fallback fallback') :
    coupling.Coupled stage coupling.Flows
      (Clause.execMatching invoke value clauses (coupling.left stage) fallback)
      (Clause.execMatching invoke' value' clauses (coupling.right stage) fallback') := by
  cases clauses with
  | nil => exact rest
  | cons clause clauses =>
      cases clause with
      | mk test body =>
          refine (expression lawful calls level test).bind ?_ ?_
          · intro candidate
            split
            · exact .fail _
            · split
              · exact Stmt.execList_gradual calls.gradual body _ .null
              · exact Clause.execMatching_gradual calls.gradual value' clauses _ gradual
          intro candidate candidate' candidates
          rw [candidates.kind_eq, related.kind_eq]
          split
          · exact .fail _
          · next same =>
              have plain : candidate.kind ∈ [Value.Kind.number, .text, .boolean] := by
                rw [candidates.kind_eq, Decidable.not_not.mp same, ← related.kind_eq]
                cases kinds with
                | inl number => simp [number]
                | inr text => simp [text]
              rw [candidates.same_eq related plain]
              split
              · exact Coupling.statements lawful calls body level declaring .null
              · exact Coupling.matchingClause lawful calls related kinds clauses level
                  declaring gradual rest

end

end Statements

section Calls

variable {depth budget budget' : Nat}

/-- The body of a call in two new scopes. -/
theorem body (lawful : coupling.Lawful) {invoke invoke' : Invoke}
    (calls : coupling.Calls depth invoke invoke') (body : List Stmt)
    {inner : coupling.Stage} (level : coupling.depth inner = depth) {world world' : World}
    {scope scope' : Scope} (opening : coupling.Opening stage inner world world' scope scope') :
    coupling.Outcome stage coupling.Values
      ((do
        let flow ← Eval.inScope (fun _ => scope) fun inner =>
          Stmt.execList invoke body inner .null
        match flow with
        | .snap value => return value
        | _ => return .null : Eval Value) world)
      ((do
        let flow ← Eval.inScope (fun _ => scope') fun inner =>
          Stmt.execList invoke' body inner .null
        match flow with
        | .snap value => return value
        | _ => return .null : Eval Value) world') := by
  have ended : coupling.Outcome stage coupling.Flows
      (Eval.inScope (fun _ => scope) (Stmt.execList invoke body · .null) world)
      (Eval.inScope (fun _ => scope') (Stmt.execList invoke' body · .null) world') :=
    Coupled.inScope opening (statements lawful calls body level opening.declaring .null)
  refine ended.bind (fun flow => by cases flow <;> simp) ?_
  intro flow flow' flows
  cases flows with
  | normal _ | endGame => exact .pure .null
  | snap related => exact .pure related

/-- A call with one more unit of budget, from calls inside of it. -/
theorem Calls.step (lawful : coupling.Lawful)
    (calls : coupling.Calls (depth + 1) (invokeWithin budget) (invokeWithin budget')) :
    coupling.Calls depth (invokeWithin (budget + 1)) (invokeWithin (budget' + 1)) where
  gradual := invokeWithin_gradual (budget' + 1)
  coupled := by
    intro stage id id' arguments arguments' level routines related world world' worlds
    have codes := lawful.routine worlds routines
    have agree := fun {routine routine'} =>
      @lawful.call stage world world' id id' routine routine' arguments arguments' worlds
        routines
    rw [invokeWithin_succ, invokeWithin_succ, Eval.callRoutine_apply, Eval.callRoutine_apply]
    generalize world.heap.routine? id = found at codes agree
    generalize world'.heap.routine? id' = found' at codes agree
    cases codes with
    | none => exact .error (fun impossible => nomatch impossible) worlds
    | @some routine routine' code =>
        have opened := agree rfl rfl related
        dsimp only
        generalize world.heap.callScope routine arguments _ = made at opened
        generalize world'.heap.callScope routine' arguments' _ = made' at opened
        rw [← code.body]
        cases opened with
        | error fault => exact .error (fun impossible => nomatch impossible) worlds
        | ok opening =>
            obtain ⟨inner, deeper, opening⟩ := opening
            exact body lawful calls routine.body (deeper.trans (by rw [level])) opening
        | spared yields _ =>
            refine .spared yields ?_
            rw [lawful.output worlds]
            cases made' with
            | error fault => exact List.prefix_rfl
            | ok scope =>
                have gradual : (do
                    let flow ← Eval.inScope (fun _ => scope) fun inner =>
                      Stmt.execList (invokeWithin budget') routine.body inner .null
                    match flow with
                    | .snap value => return value
                    | _ => return .null : Eval Value).Gradual :=
                  Eval.Gradual.bind (.inScope fun inner => Stmt.execList_gradual
                    calls.gradual routine.body inner .null)
                    fun flow => by cases flow <;> simp
                exact (gradual world').keeps_output

/-- Calls with one budget stay in step wherever they are made, if a budget may be used up. -/
theorem Calls.same (lawful : coupling.Lawful) (possible : coupling.exhaustible)
    (depth budget : Nat) :
    coupling.Calls depth (invokeWithin budget) (invokeWithin budget) := by
  induction budget generalizing depth with
  | zero =>
      constructor
      case gradual => exact invokeWithin_gradual 0
      case coupled =>
          intro stage id id' arguments arguments' level routines related
          exact .outOfBudget possible
  | succ budget induction => exact .step lawful (induction (depth + 1))

end Calls

end Avenger.Coupling
