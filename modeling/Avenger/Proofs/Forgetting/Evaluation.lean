import Avenger.Proofs.Forgetting.Rule

/-!
# Programs that forgetting does not affect

By a safe rule nothing is forgotten that a program can still find, by induction on the form of
expressions and statements; for calls by induction on their budget.
-/

namespace Avenger

/-- A team that is made holds what it is given, and numbers. -/
theorem Team.mem_make (name : String) (size : Nat) (values : List Value) :
    ∀ value ∈ (Team.make name size values).elements, value ∈ values ∨ value.Plain := by
  intro value member
  refine (Array.mem_append.mp member).imp List.mem_toArray.mp fun filled => ?_
  obtain ⟨-, rfl⟩ := Array.mem_replicate.mp filled
  exact Value.plain_number 0

/-- What leaves a loop is carried out of it. -/
theorem Flow.leaving_subset (flow : Flow) : flow.leaving ⊆ flow.values := by
  cases flow with
  | normal _ | endGame => exact List.nil_subset _
  | snap _ => exact List.Subset.refl _

namespace Held.Unaffected

variable {α β : Type} {held : Held} {extra : List Value} {names : α → List Value}

/-! ### Natives and loops -/

/-- A failure that tells something of the heap. -/
theorem failWith {fault : Heap → Fault}
    (unbound : ∀ heap : Heap, fault heap.emptied = fault heap) :
    held.Unaffected extra names (do Eval.fail (fault (← Eval.readHeap id)))
      (do Eval.fail (fault (← Eval.readHeap id))) := by
  intro world kept view
  have same := view.read fault unbound
  have left : (Eval.readHeap id >>= fun heap => Eval.fail (fault heap) : Eval α) world =
      .error (.error ⟨fault world.heap, none⟩) world := rfl
  rw [left, same]
  exact .error view.drop

theorem printAll (values : List Value) :
    held.Unaffected extra (fun _ => []) (Native.printAll values) (Native.printAll values) := by
  induction values generalizing extra with
  | nil => exact pure (List.forall_mem_nil _)
  | cons value values induction =>
      have printed : held.Unaffected extra (fun _ => []) (do
          Eval.print (← Eval.readHeap (·.valueText value))
          Native.printAll values) (do
          Eval.print (← Eval.readHeap (·.valueText value))
          Native.printAll values) :=
        (readHeap (·.valueText_emptied value)).bind fun text =>
          (print text).bind fun _ => induction
      cases value with
      | team _ => exact fail _
      | number _ | text _ | boolean _ | null | routine _ | native _ _ | stopped => exact printed

theorem plain {value : Value} (is : value.Plain) :
    held.Unaffected extra (fun value => [value]) (Pure.pure value) (Pure.pure value) :=
  pure (List.forall_mem_singleton.mpr (.inr is))

/-- A flow that goes on with null. -/
theorem null : held.Unaffected extra Flow.values (Pure.pure (.normal .null))
    (Pure.pure (.normal .null)) :=
  pure (List.forall_mem_singleton.mpr (.inr Value.plain_null))

theorem printValues (values : List Value) :
    held.Unaffected extra (fun value => [value]) (Native.printValues values)
      (Native.printValues values) := by
  unfold Native.printValues
  split
  · exact (print _).bind fun _ => plain Value.plain_null
  · exact (printAll values).bind fun _ => plain Value.plain_null

theorem nativeTest (actual expected : Value) :
    held.Unaffected extra (fun value => [value]) (Native.test actual expected)
      (Native.test actual expected) := by
  unfold Native.test
  split
  · exact fail _
  · split
    · exact fail _
    · split
      · exact failWith fun heap => by rw [heap.valueText_emptied, heap.valueText_emptied]
      · exact (print _).bind fun _ => plain (Value.plain_boolean _)

theorem native (function : Native) (arguments : List Value) :
    held.Unaffected extra (fun value => [value]) (function.apply arguments)
      (function.apply arguments) := by
  have checked : held.Unaffected extra (fun _ => [])
      (Eval.ofExcept (function.checkArity arguments.length))
      (Eval.ofExcept (function.checkArity arguments.length)) :=
    ofExcept fun _ _ => List.forall_mem_nil _
  refine checked.bind fun _ => ?_
  split
  · exact printValues arguments
  · exact nativeTest _ _
  · exact readClock.bind fun _ => plain (Value.plain_number _)
  · exact readChance.bind fun _ => plain (Value.plain_number _)
  · refine checkPlaces (·.pureResult_emptied _ arguments) fun heap => ?_
    exact (Native.pureResult_plain _ heap arguments).mono fun _ is =>
      List.forall_mem_singleton.mpr (knows_of_plain is)

section Loops

variable {limit : Nat}

theorem conditional {test test' : Eval Bool} {turn turn' : Eval Flow}
    (tests : held.Unaffected [] (fun _ => []) test test')
    (turns : held.Unaffected [] Flow.leaving turn turn') (left : Nat) :
    held.Unaffected [] Flow.values (Loop.conditional limit test turn left)
      (Loop.conditional limit test' turn' left) := by
  induction left with
  | zero => exact tests.branch (fail _) null
  | succ left induction =>
      refine tests.branch (turns.bind fun flow => ?_)
        null
      cases flow with
      | normal _ => exact induction
      | snap _ => exact pure fun _ => .inl
      | endGame => exact null

theorem counted {range : Range} {turn turn' : Float → Eval Flow}
    (turns : ∀ count, held.Unaffected [] Flow.leaving (turn count) (turn' count)) (left : Nat)
    (count : Float) :
    held.Unaffected [] Flow.values (Loop.counted limit range turn left count)
      (Loop.counted limit range turn' left count) := by
  induction left generalizing count with
  | zero =>
      unfold Loop.counted
      split
      · exact fail _
      · exact null
  | succ left induction =>
      unfold Loop.counted
      split
      · refine (turns count).bind fun flow => ?_
        cases flow with
        | normal _ => exact induction _
        | snap _ => exact pure fun _ => .inl
        | endGame => exact null
      · exact null

end Loops

/-- Assigns, and only the value is used after that. -/
theorem assigned {scope : ScopeId} {value : Value} (opened : scope ∈ held.scopes)
    (given : value ∈ extra ∨ value.Plain) (name : String) :
    held.Unaffected extra (fun value => [value]) (Eval.assign scope name value)
      (Eval.assign scope name value) :=
  (assign opened given name).mono (List.Subset.refl _) fun _ =>
    List.cons_subset_cons _ (List.nil_subset _)

/-! ### Programs -/

/-- Calls of functions that are held, which forgetting does not affect. -/
structure Calls (invoke : Held → Invoke) (invoke' : Invoke) : Prop where
  unaffected : ∀ {held : Held} {id : RoutineId} (arguments : List Value) (caller : ScopeId),
    .routine id ∈ held.values → held.Unaffected arguments (fun value => [value])
      (invoke held id arguments caller) (invoke' id arguments caller)
  gradual : ∀ id arguments caller, (invoke' id arguments caller).Gradual

namespace Calls

variable {forgets : Forgetting} {invoke : Held → Invoke} {invoke' : Invoke} {scope : ScopeId}

theorem value (calls : Calls invoke invoke') (callee : Value) (arguments : List Value) :
    held.Unaffected (arguments ++ [callee]) (fun value => [value])
      (callee.call (invoke (held.and [callee])) arguments scope)
      (callee.call invoke' arguments scope) := by
  cases callee with
  | native function _ => exact native function arguments
  | routine id =>
      have called : Value.routine id ∈ (held.and [.routine id]).values := .head _
      exact (calls.unaffected arguments scope called).holding.mono (List.Subset.refl _)
        fun _ => List.subset_append_left _ _
  | null | number _ | boolean _ | text _ | team _ | stopped => exact fail _

mutual

theorem expression (calls : Calls invoke invoke') (held : Held) (opened : scope ∈ held.scopes)
    (expression : Expr) :
    held.Unaffected [] (fun value => [value]) (expression.evalHolding invoke scope held)
      (expression.eval invoke' scope) := by
  cases expression with
  | number value => exact plain (Value.plain_number value)
  | text value => exact plain (Value.plain_text value)
  | null => exact plain Value.plain_null
  | name identifier => exact lookup opened identifier
  | arithmetic operator left right =>
      refine (calls.expression held opened left).bind fun left => ?_
      refine (calls.expression (held.and [left]) opened right).holding.bind fun right => ?_
      refine (readHeap (·.limits_emptied scope)).bind fun _ => ofExcept ?_
      exact (Value.arithmetic_plain _ _ left right).mono fun _ is =>
        List.forall_mem_singleton.mpr (.inr is)
  | comparison operator left right =>
      refine (calls.expression held opened left).bind fun left => ?_
      refine (calls.expression (held.and [left]) opened right).holding.bind fun right => ?_
      exact plain (Value.compare_plain _ left right)
  | connective operator left right =>
      refine (calls.expression held opened left).bind fun left => ?_
      refine (calls.expression (held.and [left]) opened right).holding.bind fun right => ?_
      exact plain (Value.connect_plain _ left right)
  | not operand =>
      exact (calls.expression held opened operand).bind fun value => plain value.not_plain
  | minus operand =>
      refine (calls.expression held opened operand).bind fun value => ofExcept ?_
      exact value.minus_plain.mono fun _ is => List.forall_mem_singleton.mpr (.inr is)
  | assign target value =>
      cases target with
      | name identifier =>
          refine (calls.expression held opened value).bind fun _ => ?_
          exact assigned opened (.inl (.head _)) identifier
      | member object index =>
          refine (calls.expression held opened object).bind fun base => ?_
          refine (calls.expression (held.and [base]) opened index).holding.bind
            fun index => ?_
          refine (calls.expression (held.and [index, base]) opened value).holding.bind
            fun value => ?_
          cases base with
          | team id => exact writeElement (.head _) id index
          | text content =>
              cases object with
              | name identifier => exact writeCharacter opened (.head _) identifier content index
              | _ => exact fail _
          | _ => exact fail _
      | _ => exact fail _
  | update operator target value =>
      cases target with
      | name identifier =>
          refine (lookup opened identifier).bind fun current => ?_
          refine (calls.expression (held.and [current]) opened value).holding.bind
            fun value => ?_
          cases current with
          | number left =>
              cases value with
              | number right => exact assigned opened (.inr (Value.plain_number _)) identifier
              | _ => exact fail _
          | _ => exact fail _
      | _ => exact fail _
  | member object index =>
      refine (calls.expression held opened object).bind fun object => ?_
      refine (calls.expression (held.and [object]) opened index).holding.bind
        fun index => ?_
      exact member (.tail _ (.head _)) index
  | call callee arguments =>
      refine (calls.expression held opened callee).bind fun callee => ?_
      refine (calls.expressions (held.and [callee]) opened arguments).holding.bind
        fun arguments => ?_
      exact calls.value callee arguments

/-- List counterpart of `expression`. -/
theorem expressions (calls : Calls invoke invoke') (held : Held) (opened : scope ∈ held.scopes)
    (expressions : List Expr) :
    held.Unaffected [] id (Expr.evalListHolding invoke scope expressions held)
      (Expr.evalList invoke' scope expressions) := by
  cases expressions with
  | nil => exact pure (List.forall_mem_nil _)
  | cons expression rest =>
      refine (calls.expression held opened expression).bind fun value => ?_
      refine (calls.expressions (held.and [value]) opened rest).holding.bind
        fun values => pure fun named member => .inl ?_
      exact (List.mem_cons.mp member).elim (· ▸ List.mem_append_right _ (.head _))
        (List.mem_append_left _)

end

theorem option (calls : Calls invoke invoke') (opened : scope ∈ held.scopes)
    (expression : Option Expr) :
    held.Unaffected [] (fun value => [value]) (Expr.evalOptionHolding invoke scope expression held)
      (Expr.evalOption invoke' scope expression) := by
  cases expression with
  | none => exact plain Value.plain_null
  | some expression => exact calls.expression held opened expression

theorem test (calls : Calls invoke invoke') (opened : scope ∈ held.scopes)
    (construct : Construct) (condition : Expr) :
    held.Unaffected [] (fun _ => []) (condition.testHolding invoke scope construct held)
      (condition.test invoke' construct scope) := by
  refine (calls.expression held opened condition).bind fun value => ?_
  cases value.truth? with
  | some truth => exact pure (List.forall_mem_nil _)
  | none => exact fail _

theorem rangePart (calls : Calls invoke invoke') (opened : scope ∈ held.scopes)
    (part : RangePart) (expression : Expr) :
    held.Unaffected [] (fun _ => []) (expression.rangePartHolding invoke scope part held)
      (expression.rangePart invoke' part scope) := by
  refine (calls.expression held opened expression).bind fun value => ?_
  cases value with
  | number _ => exact pure (List.forall_mem_nil _)
  | _ => exact fail _

theorem range (calls : Calls invoke invoke') (opened : scope ∈ held.scopes) (start stop : Expr)
    (step : Option Expr) :
    held.Unaffected [] (fun _ => []) (Expr.rangeHolding invoke scope start stop step held)
      (Expr.range invoke' scope start stop step) := by
  have stepPart : held.Unaffected [] (fun _ => []) (Expr.stepPartHolding invoke scope step held)
      (Expr.stepPart invoke' scope step) := by
    cases step with
    | none => exact pure (List.forall_mem_nil _)
    | some step => exact calls.rangePart opened .step step
  rw [Expr.range_eq]
  refine (calls.rangePart opened .start start).bind fun start => ?_
  refine (calls.rangePart opened .stop stop).bind fun stop => stepPart.bind fun step => ?_
  split
  · exact pure (List.forall_mem_nil _)
  · exact fail _

/-- A list of statements as a block of its own. -/
theorem block (calls : Calls invoke invoke') (safe : forgets.Safe) (opened : scope ∈ held.scopes)
    {body : List Stmt}
    (statements : ∀ inner, (held.opened inner).Unaffected [.null] Flow.values
      (Stmt.execListHolding forgets invoke body inner .null (held.opened inner))
      (Stmt.execList invoke' body inner .null)) :
    held.Unaffected extra Flow.values
      (held.inChild forgets scope fun inner held =>
        Stmt.execListHolding forgets invoke body inner .null held)
      (Eval.inChild scope fun inner => Stmt.execList invoke' body inner .null) :=
  inChild safe opened (fun inner => (statements inner).givenPlain Value.plain_null)
    (.inChild scope fun inner => Stmt.execList_gradual calls.gradual body inner .null)

mutual

theorem statement (calls : Calls invoke invoke') (safe : forgets.Safe) {scope : ScopeId}
    (held : Held) (opened : scope ∈ held.scopes) (statement : Stmt) :
    held.Unaffected [] Flow.values (statement.execHolding forgets invoke scope held)
      (statement.exec invoke' scope) := by
  cases statement with
  | mk line action => exact atLine line (calls.action safe held opened action)

/-- Counterpart of `statement` for what statements do. -/
theorem action (calls : Calls invoke invoke') (safe : forgets.Safe) {scope : ScopeId}
    (held : Held) (opened : scope ∈ held.scopes) (action : Action) :
    held.Unaffected [] Flow.values (action.execHolding forgets invoke scope held)
      (action.exec invoke' scope) := by
  cases action with
  | expression value =>
      exact (calls.expression held opened value).bind fun _ => pure fun _ => .inl
  | declare name constant value =>
      refine (calls.option opened value).bind fun _ => ?_
      exact (declare opened (.head _) name constant).bind fun _ => pure fun _ => .inl
  | team name size values =>
      refine (calls.expression held opened size).bind fun size => ?_
      have sized : held.Unaffected [size] (fun _ => [])
          (Eval.ofExcept (Team.size name values.length size))
          (Eval.ofExcept (Team.size name values.length size)) :=
        ofExcept fun _ _ => List.forall_mem_nil _
      refine sized.bind fun size => (calls.expressions held opened values).bind fun values => ?_
      refine (reserve opened name).bind fun _ => ?_
      refine (newTeam (Team.mem_make name size values)).bind fun team => ?_
      exact (declare opened (.head _) name false).bind fun _ => pure fun _ => .inl
  | branch condition body alternatives otherwise =>
      rw [Action.exec_branch, Action.execHolding_branch]
      have bodies : held.Unaffected [] Flow.values _ _ := calls.block safe opened fun inner =>
        calls.statements safe (held.opened inner) (.head _) body .null
      refine (calls.test opened .ifWorthy condition).branch bodies ?_
      refine calls.firstClause safe held opened alternatives ?_
      cases otherwise with
      | none => exact null
      | some body => exact calls.block safe opened fun inner =>
          calls.statements safe (held.opened inner) (.head _) body .null
  | loopWhile condition body =>
      refine (readHeap (·.limits_emptied scope)).bind fun limits => ?_
      have turn : held.Unaffected [] Flow.values _ _ := calls.block safe opened fun inner =>
        calls.statements safe (held.opened inner) (.head _) body .null
      exact conditional (calls.test opened .fightUntil condition)
        (turn.mono (List.Subset.refl _) Flow.leaving_subset) _
  | loopRange iterator start stop step body =>
      refine (calls.range opened start stop step).bind fun range => ?_
      refine (readHeap (·.limits_emptied scope)).bind fun limits => counted (fun count => ?_) _ _
      have plain : ∀ binding ∈ [(⟨iterator, .number count, false⟩ : Binding)],
          binding.value.Plain := List.forall_mem_singleton.mpr (Value.plain_number count)
      have turn : held.Unaffected [] Flow.values _ _ := inBlock safe opened plain
        (fun inner => (calls.statements safe (held.opened inner) (.head _) body .null).givenPlain
          Value.plain_null)
        (.inScope fun inner => Stmt.execList_gradual calls.gradual body inner .null)
      exact turn.mono (List.Subset.refl _) Flow.leaving_subset
  | loopFor header condition modification body =>
      refine inChild safe opened (fun outer => ?_)
        (Eval.Gradual.compositional.action calls.gradual
          (.loopFor header condition modification body) fun _ => trivial)
      have above : outer ∈ (held.opened outer).scopes := .head _
      refine (calls.statement safe (held.opened outer) above header).bind fun flow => ?_
      cases flow with
      | snap _ | endGame => exact pure fun _ => .inl
      | normal _ =>
          refine (readHeap (·.limits_emptied outer)).bind fun limits => ?_
          refine mono (conditional (calls.test above .wakandaFor condition) ?_ _)
            (List.nil_subset _) fun _ => List.Subset.refl _
          have bodies : (held.opened outer).Unaffected [] Flow.values _ _ :=
            calls.block safe above fun inner =>
              calls.statements safe ((held.opened outer).opened inner) (.head _) body .null
          refine bodies.bind fun flow => ?_
          cases flow with
          | snap _ => exact pure fun _ => .inl
          | endGame => exact pure (List.forall_mem_nil _)
          | normal value =>
              have modified := (calls.expression (held.opened outer) above modification).mono
                (List.nil_subset [value]) fun _ => List.nil_subset _
              exact modified.bind fun _ => pure (List.forall_mem_nil _)
  | multiverse discriminant cases fallback =>
      refine (calls.expression held opened discriminant).bind fun value => ?_
      split
      · exact fail _
      · have clauses (inner : ScopeId) := calls.matchingClause safe (held.opened inner) (.head _)
          value cases ((calls.statements safe (held.opened inner) (.head _) fallback
            .null).givenPlain Value.plain_null)
        have gradual (inner : ScopeId) := Clause.execMatching_gradual calls.gradual value cases
          inner (Stmt.execList_gradual calls.gradual fallback inner .null)
        refine (inChild safe opened clauses (.inChild scope gradual)).bind fun flow => ?_
        cases flow with
        | normal _ | snap _ => exact pure fun _ => .inl
        | endGame => exact null
  | assemble name parameters body =>
      refine (reserve opened name).bind fun _ => ?_
      have made : held.Unaffected [] (fun value => [value])
          (Eval.newRoutine { name, parameters, body, closure := scope })
          (Eval.newRoutine { name, parameters, body, closure := scope }) := newRoutine opened
      refine made.bind fun _ => ?_
      exact (declare opened (.head _) name false).bind fun _ => pure fun _ => .inl
  | snap value => exact (calls.option opened value).bind fun _ => pure fun _ => .inl
  | endGame => exact pure (List.forall_mem_nil _)

/-- List counterpart of `statement`. -/
theorem statements (calls : Calls invoke invoke') (safe : forgets.Safe) {scope : ScopeId}
    (held : Held) (opened : scope ∈ held.scopes) (statements : List Stmt) (last : Value) :
    held.Unaffected [last] Flow.values
      (Stmt.execListHolding forgets invoke statements scope last held)
      (Stmt.execList invoke' statements scope last) := by
  cases statements with
  | nil => exact pure fun _ => .inl
  | cons statement rest =>
      refine (calls.statement safe (held.and [last]) opened statement).holding.bind fun flow => ?_
      cases flow with
      | normal value =>
          exact (calls.statements safe held opened rest value).mono
            (List.subset_append_left _ _) fun _ => List.Subset.refl _
      | snap _ => exact pure fun _ member => .inl (List.mem_append_left _ member)
      | endGame => exact pure (List.forall_mem_nil _)

theorem firstClause (calls : Calls invoke invoke') (safe : forgets.Safe) {scope : ScopeId}
    (held : Held) (opened : scope ∈ held.scopes) (clauses : List Clause)
    {otherwise otherwise' : Eval Flow}
    (last : held.Unaffected [] Flow.values otherwise otherwise') :
    held.Unaffected [] Flow.values
      (Clause.execFirstHolding forgets invoke clauses scope held otherwise)
      (Clause.execFirst invoke' clauses scope otherwise') := by
  match clauses with
  | [] => exact last
  | .mk condition body :: rest =>
      have bodies : held.Unaffected [] Flow.values _ _ := calls.block safe opened fun inner =>
        calls.statements safe (held.opened inner) (.head _) body .null
      exact (calls.test opened .ifWorthy condition).branch bodies
        (calls.firstClause safe held opened rest last)

theorem matchingClause (calls : Calls invoke invoke') (safe : forgets.Safe) {scope : ScopeId}
    (held : Held) (opened : scope ∈ held.scopes) (value : Value) (clauses : List Clause)
    {fallback fallback' : Eval Flow}
    (last : held.Unaffected [] Flow.values fallback fallback') :
    held.Unaffected [] Flow.values
      (Clause.execMatchingHolding forgets invoke value clauses scope held fallback)
      (Clause.execMatching invoke' value clauses scope fallback') := by
  match clauses with
  | [] => exact last
  | .mk test body :: rest =>
      refine (calls.expression held opened test).bind fun candidate => ?_
      split
      · exact fail _
      · split
        · exact (calls.statements safe held opened body .null).givenPlain Value.plain_null
        · exact (calls.matchingClause safe held opened value rest last).mono (List.nil_subset _)
            fun _ => List.Subset.refl _

end

/-- Calls by a safe rule, whatever their budget. -/
theorem within (safe : forgets.Safe) (budget : Nat) :
    Calls (invokeHolding forgets budget) (invokeWithin budget) := by
  induction budget with
  | zero => exact ⟨fun _ _ _ => stop _, invokeWithin_gradual 0⟩
  | succ budget induction =>
      refine ⟨fun arguments caller given => ?_, invokeWithin_gradual (budget + 1)⟩
      exact call safe given arguments caller
        (fun routine inner => (induction.statements safe _ (.head _) routine.body .null).givenPlain
          Value.plain_null)
        fun routine inner => Stmt.execList_gradual induction.gradual routine.body inner .null

end Calls

theorem statements {forgets : Forgetting} (safe : forgets.Safe) {scope : ScopeId}
    (opened : scope ∈ held.scopes) (program : Program) :
    held.Unaffected [] Flow.values (program.execHolding forgets scope held)
      (program.exec scope) := by
  refine (readHeap (·.callBudget_emptied)).bind fun budget => ?_
  exact ((Calls.within safe budget).statements safe held opened program .null).givenPlain
    Value.plain_null

/-- Programs that run by a safe rule do as they do when everything is kept. -/
theorem program {forgets : Forgetting} (safe : forgets.Safe) {scope : ScopeId}
    (opened : scope ∈ held.scopes) (program : Program) :
    held.Unaffected [] (fun value => [value]) (program.evalHolding forgets scope held)
      (program.eval scope) := by
  refine (statements safe opened program).bind fun flow => ?_
  cases flow with
  | normal _ | snap _ => exact pure fun _ => .inl
  | endGame =>
      exact fun _ _ view => .ok (view.among (List.forall_mem_singleton.mpr nofun))

end Held.Unaffected

end Avenger
