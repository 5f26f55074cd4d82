import Avenger.Proofs.Labels
import Avenger.Proofs.Origin

/-!
# Two reports of one refused value

Two constructs that evaluate the same expressions can refuse a value of the wrong kind with
different faults.  `Eval.Renamed` says that two runs differ in nothing else, and `Eval.EndAlike`
says this of the ends of two runs whose worlds are related in some way.
-/

namespace Avenger

/-- How a construct deals with values of the wrong kind. -/
structure Eval.Report where
  /-- The evaluations whose values can be refused. -/
  probe : Eval Value → Prop
  /-- The kinds of value that are refused. -/
  refused : Value.Kind → Prop
  /-- The fault that tells of a kind. -/
  fault : Value.Kind → Fault

namespace Eval

variable {α β : Type}

/-- The run fails because a value that is evaluated on the way is refused. -/
structure Refuses (report : Report) (run : Eval α) (world : World) (kind : Value.Kind)
    (line : Option Nat) (last : World) : Prop where
  refused : report.refused kind
  failed : run world = .error (.error ⟨report.fault kind, line⟩) last
  evaluated : ∃ (evaluation : Eval Value) (value : Value) (start later : World),
    report.probe evaluation ∧ Within evaluation start run world ∧
      evaluation start = .ok value later ∧ value.kind = kind

/-- The two runs do the same, except that they may refuse a value with a fault of their own. -/
def Renamed (report report' : Report) (line : Option Nat) (run run' : Eval α) : Prop :=
  ∀ world, run world = run' world ∨ ∃ kind last,
    Refuses report run world kind line last ∧ Refuses report' run' world kind line last

/-- The runs end in the same way in related worlds, except that they may refuse a value, each
with its own fault on the given line. -/
inductive EndAlike (report report' : Report) (line : Nat) (worlds : World → World → Prop)
    (run : Eval α) (world : World) (run' : Eval α) (world' : World) : Prop where
  | ok {result : α} {later later' : World} (ended : run world = .ok result later)
      (ended' : run' world' = .ok result later') (related : worlds later later')
  | error {stop : Stop} {later later' : World} (ended : run world = .error stop later)
      (ended' : run' world' = .error stop later') (related : worlds later later')
  | refused {kind : Value.Kind} {later later' : World}
      (refuses : Refuses report run world kind (some line) later)
      (refuses' : Refuses report' run' world' kind (some line) later')
      (related : worlds later later')

/-- Runs that end in the same way in related worlds. -/
inductive EndSame (worlds : World → World → Prop) :
    EStateM.Result Stop World α → EStateM.Result Stop World α → Prop where
  | ok (result : α) {later later' : World} (related : worlds later later') :
      EndSame worlds (.ok result later) (.ok result later')
  | error (stop : Stop) {later later' : World} (related : worlds later later') :
      EndSame worlds (.error stop later) (.error stop later')

theorem EndSame.of_errors {worlds : World → World → Prop} {stop stop' : Stop}
    {later later' : World}
    (same : EndSame worlds (.error stop later : EStateM.Result Stop World α)
      (.error stop' later')) : stop = stop' ∧ worlds later later' := by
  cases same with
  | error stop related => exact ⟨rfl, related⟩

namespace EndSame

variable {worlds later : World → World → Prop} {result result' : EStateM.Result Stop World α}

/-- The same label on both ends. -/
theorem atLine {run run' : Eval α} {world world' : World}
    (same : EndSame worlds (run world) (run' world')) (line : Nat) :
    EndSame worlds (Eval.atLine line run world) (Eval.atLine line run' world') := by
  generalize ended : run world = left at same
  generalize ended' : run' world' = right at same
  cases same with
  | ok result related =>
      rw [atLine_of_ok line ended, atLine_of_ok line ended']
      exact .ok result related
  | error stop related =>
      rw [atLine_of_error line ended, atLine_of_error line ended']
      exact .error _ related

/-- The results are read in the same way. -/
theorem read {run run' : Eval α} {world world' : World}
    (same : EndSame worlds (run world) (run' world')) (read : α → β) :
    EndSame worlds ((do return read (← run)) world) ((do return read (← run')) world') := by
  generalize ended : run world = left at same
  generalize ended' : run' world' = right at same
  cases same with
  | ok result related =>
      rw [bind_of_ok ended, bind_of_ok ended']
      exact .ok _ related
  | error stop related =>
      rw [bind_of_error ended, bind_of_error ended']
      exact .error stop related

/-- Only the second run is in a scope of its own. -/
theorem inScope {make : Heap → Scope} {run' : ScopeId → Eval α} {world' : World}
    (same : EndSame worlds result
      (run' world'.heap.nextScope (world'.mapHeap (·.addScope (make world'.heap)))))
    (closed : ∀ {last last'}, worlds last last' → later last
      (last'.endScope world'.heap.nextScope world'.heap.routines.size)) :
    EndSame later result (Eval.inScope make run' world') := by
  generalize ended' : run' world'.heap.nextScope _ = right at same
  cases same with
  | ok result related =>
      rw [inScope_of_ok ended']
      exact .ok result (closed related)
  | error stop related =>
      rw [inScope_of_error ended']
      exact .error stop (closed related)

end EndSame

namespace Refuses

variable {report : Report} {run : Eval α} {world last : World} {kind : Value.Kind}
  {line : Option Nat}

/-- A part of a run that refuses a value makes the run refuse it. -/
theorem lift {run' : Eval β} {world' last' : World} {line' : Option Nat}
    (refuses : Refuses report run world kind line last)
    (within : ∀ {evaluation : Eval Value} {start : World},
      Within evaluation start run world → Within evaluation start run' world')
    (failed : run' world' = .error (.error ⟨report.fault kind, line'⟩) last') :
    Refuses report run' world' kind line' last' where
  refused := refuses.refused
  failed := failed
  evaluated := by
    obtain ⟨evaluation, value, start, later, probed, inside, evaluated, ofKind⟩ := refuses.evaluated
    exact ⟨evaluation, value, start, later, probed, within inside, evaluated, ofKind⟩

end Refuses

namespace Renamed

variable {report report' : Report} {line : Option Nat} {run run' : Eval α}

theorem refl (run : Eval α) : Renamed report report' line run run := fun _ => .inl rfl

/-- A value is evaluated, and then both runs do the same unless they refuse it. -/
theorem evaluating {evaluation : Eval Value} {next next' : Value → Eval α}
    (probed : report.probe evaluation) (probed' : report'.probe evaluation)
    (rest : ∀ value, next value = next' value ∨
      (report.refused value.kind ∧ next value = Eval.fail (report.fault value.kind)) ∧
        report'.refused value.kind ∧ next' value = Eval.fail (report'.fault value.kind)) :
    Renamed report report' none (evaluation >>= next) (evaluation >>= next') := by
  intro world
  cases ended : evaluation world with
  | error stop later =>
      left
      rw [bind_of_error ended, bind_of_error ended]
  | ok value later =>
      rcases rest value with same | ⟨⟨refused, failed⟩, refused', failed'⟩
      · left
        rw [bind_of_ok ended, bind_of_ok ended, same]
      · have refuses {report : Report} {next : Value → Eval α} (probed : report.probe evaluation)
            (refused : report.refused value.kind)
            (failed : next value = Eval.fail (report.fault value.kind)) :
            Refuses report (evaluation >>= next) world value.kind none later := by
          refine ⟨refused, ?_, evaluation, value, world, later, probed, .first .here, ended, rfl⟩
          rw [bind_of_ok ended, failed]
          rfl
        exact .inr ⟨value.kind, later, refuses probed refused failed,
          refuses probed' refused' failed'⟩

theorem bind {next next' : α → Eval β} (first : Renamed report report' line run run')
    (second : ∀ result, Renamed report report' line (next result) (next' result)) :
    Renamed report report' line (run >>= next) (run' >>= next') := by
  intro world
  rcases first world with same | ⟨kind, last, refuses, refuses'⟩
  · cases ended : run world with
    | ok result later =>
        have ended' := same.symm.trans ended
        rw [bind_of_ok ended, bind_of_ok ended']
        refine (second result later).imp_right ?_
        rintro ⟨kind, last, refuses, refuses'⟩
        exact ⟨kind, last, refuses.lift (.second ended) ((bind_of_ok ended).trans refuses.failed),
          refuses'.lift (.second ended') ((bind_of_ok ended').trans refuses'.failed)⟩
    | error stop later =>
        rw [bind_of_error ended, bind_of_error (same.symm.trans ended)]
        exact .inl rfl
  · exact .inr ⟨kind, last, refuses.lift .first (bind_of_error refuses.failed),
      refuses'.lift .first (bind_of_error refuses'.failed)⟩

theorem inScope {make : Heap → Scope} {run run' : ScopeId → Eval α}
    (inside : ∀ scope, Renamed report report' line (run scope) (run' scope)) :
    Renamed report report' line (Eval.inScope make run) (Eval.inScope make run') := by
  intro world
  rcases inside world.heap.nextScope (world.mapHeap (·.addScope (make world.heap))) with
    same | ⟨kind, last, refuses, refuses'⟩
  · left
    cases ended : run world.heap.nextScope (world.mapHeap (·.addScope (make world.heap))) with
    | ok result later => rw [inScope_of_ok ended, inScope_of_ok (same.symm.trans ended)]
    | error stop later => rw [inScope_of_error ended, inScope_of_error (same.symm.trans ended)]
  · exact .inr ⟨kind, _, refuses.lift .inScope (inScope_of_error refuses.failed),
      refuses'.lift .inScope (inScope_of_error refuses'.failed)⟩

theorem inChild {parent : ScopeId} {run run' : ScopeId → Eval α}
    (inside : ∀ scope, Renamed report report' line (run scope) (run' scope)) :
    Renamed report report' line (Eval.inChild parent run) (Eval.inChild parent run') :=
  inScope inside

/-- The label of a refusal is the innermost one. -/
theorem atLine (inside : Renamed report report' none run run') (line : Nat) :
    Renamed report report' (some line) (Eval.atLine line run) (Eval.atLine line run') := by
  intro world
  rcases inside world with same | ⟨kind, last, refuses, refuses'⟩
  · left
    unfold Eval.atLine
    rw [same]
  · exact .inr ⟨kind, last, refuses.lift (.atLine line) (atLine_of_error line refuses.failed),
      refuses'.lift (.atLine line) (atLine_of_error line refuses'.failed)⟩

end Renamed

/-- The ends of two runs are compared through the same runs with the faults of the other one. -/
theorem EndAlike.of_renamed {report report' : Report} {line : Nat}
    {worlds : World → World → Prop} {first first' second second' : Eval α}
    {world world' : World}
    (distinct : ∀ {kind kind'}, report'.fault kind = report'.fault kind' → kind = kind')
    (left : Renamed report report' (some line) first first')
    (right : Renamed report report' (some line) second second')
    (same : EndSame worlds (first world) (second world'))
    (same' : EndSame worlds (first' world) (second' world')) :
    EndAlike report report' line worlds first world second' world' := by
  rcases left world with equal | ⟨kind, last, refuses, refuses'⟩
  · rw [← equal] at same'
    generalize ended : first world = result at same'
    generalize ended' : second' world' = result' at same'
    cases same' with
    | ok result related => exact .ok ended ended' related
    | error stop related => exact .error ended ended' related
  · rw [refuses'.failed] at same'
    generalize ended' : second' world' = result' at same'
    cases same' with
    | error stop related =>
        rcases right world' with equal | ⟨other, end_, -, other'⟩
        · rw [refuses.failed, equal, ended'] at same
          obtain ⟨stops, -⟩ := same.of_errors
          exact .error (stops ▸ refuses.failed) ended' related
        · have stops := other'.failed.symm.trans ended'
          injection stops with stops
          injection stops with errors
          obtain rfl := distinct (congrArg RuntimeError.fault errors)
          cases other'.failed.symm.trans ended'
          exact .refused refuses other' related

/-- The second run may do something before the part that is compared with the first one. -/
theorem EndAlike.after {report report' : Report} {line : Nat} {worlds : World → World → Prop}
    {run : Eval α} {before : Eval β} {next : β → Eval α} {world start start' : World} {result : β}
    (ended : before start = .ok result start')
    (alike : EndAlike report report' line worlds run world (next result) start') :
    EndAlike report report' line worlds run world (before >>= next) start := by
  cases alike with
  | ok ran ran' related => exact .ok ran ((bind_of_ok ended).trans ran') related
  | error ran ran' related => exact .error ran ((bind_of_ok ended).trans ran') related
  | refused refuses refuses' related =>
      exact .refused refuses
        (refuses'.lift (.second ended) ((bind_of_ok ended).trans refuses'.failed)) related

end Eval

end Avenger
