import Avenger.Proofs.Constants
import Avenger.Proofs.Forgetting.Evaluation
import Avenger.Proofs.Guards

/-!
# Forgetting the bindings of scopes is not observable

A session that forgets the bindings of each scope that ends isolated, and one that forgets nothing,
give the same results and print the same; and what their host can still find reads the same,
whatever it holds on to.
-/

namespace Avenger

/-- The values that a step gives. -/
def Step.values (step : Step Value) : List Value :=
  match step.result with
  | .ok value => [value]
  | .error _ => []

/-- Steps with the same result and the same lines, after which all that is found from what is held
is the same. -/
structure Step.SameFor (held : Held) (step kept : Step Value) : Prop where
  result : step.result = kept.result
  printed : step.printed = kept.printed
  finds : ∀ place, step.world.heap.Finds held.places place ↔
    kept.world.heap.Finds held.places place
  scopes : ∀ {id}, kept.world.heap.Finds held.places (.scope id) →
    step.world.heap.scope? id = kept.world.heap.scope? id
  lookups : ∀ {id}, kept.world.heap.Finds held.places (.scope id) → ∀ name,
    step.world.heap.resolve? name id = kept.world.heap.resolve? name id
  closures : ∀ {id routine}, kept.world.heap.Finds held.places (.routine id) →
    kept.world.heap.routine? id = some routine →
      step.world.heap.routine? id = some routine ∧
        ∀ name, step.world.heap.lookup routine.closure name =
          kept.world.heap.lookup routine.closure name
  texts : ∀ value, step.world.heap.valueText value = kept.world.heap.valueText value

theorem Held.SameView.step {held : Held} {step kept : Step Value}
    (view : held.SameView step.world.heap kept.world.heap) (result : step.result = kept.result)
    (printed : step.printed = kept.printed) : step.SameFor held kept where
  result := result
  printed := printed
  finds _ := view.finds_iff
  scopes := view.scope?
  lookups found name := view.resolve? name _ found
  closures found stands :=
    ⟨(view.routine? _).trans stands, view.lookup (found.next (.closure stands))⟩
  texts value := view.read (·.valueText value) (·.valueText_emptied value)

/-- A source that a host runs, and what it holds on to then of the values that it has. -/
structure Turn where
  source : String
  hold : List Value → List Value
  among : ∀ values, hold values ⊆ values

namespace Session

variable {forgets : Forgetting}

/-- What is held while the host of a session holds some values. -/
def held (session : Session) (values : List Value) : Held := ⟨[session.scope], values⟩

/-- Runs a source while values are held, and forgets by a rule. -/
def runHolding (forgets : Forgetting) (session : Session) (values : List Value)
    (source : String) : Step Value :=
  stepSource (·.evalHolding forgets session.scope (session.held values)) source session.world

/-- The steps of a session whose host takes some turns, with the values that it has after each. -/
def turns (forgets : Forgetting) : Session → List Value → List Turn → List (Step Value × List Value)
  | _, _, [] => []
  | session, values, turn :: rest =>
      let step := session.runHolding forgets values turn.source
      let values := step.values ++ values
      (step, values) ::
        { session with world := step.world }.turns forgets (turn.hold values) rest

/-- The session with another heap and nothing forgotten from now on. -/
def keeping (session : Session) (kept : Heap) : Session :=
  { session with world := session.world.keeping kept }

/-- Sources that run by the rule of the world are run. -/
theorem runHolding_retained (session : Session) (values : List Value) (source : String) :
    session.runHolding .retained values source = session.run source := by
  simp only [runHolding, run, Program.evalHolding_eq]

/-- By the rule of the world, a session makes its steps, whatever its host holds on to. -/
theorem turns_retained (session : Session) (values : List Value) (turns : List Turn) :
    (session.turns .retained values turns).map (·.1) = session.steps (turns.map (·.source)) := by
  induction turns generalizing session values with
  | nil => rfl
  | cons turn rest induction =>
      simp only [Session.turns, List.map_cons, steps, runHolding_retained, induction]
      rfl

/-- One source. -/
theorem runHolding_same (safe : forgets.Safe) {session : Session} {kept : Heap}
    {values : List Value} (view : (session.held values).SameView session.world.heap kept)
    (source : String) : ∃ later : Heap,
      ((session.keeping kept).run source) =
        { session.runHolding forgets values source with
          world := (session.runHolding forgets values source).world.keeping later } ∧
      (session.held ((session.runHolding forgets values source).values ++ values)).SameView
        (session.runHolding forgets values source).world.heap later := by
  unfold runHolding run stepSource
  cases Program.ofSource source with
  | error error => exact ⟨kept, rfl, view⟩
  | ok program =>
      have opened : session.scope ∈ (session.held values).scopes := .head _
      have ended := Held.Unaffected.program safe opened program
        { session.world with output := #[] } kept view
      dsimp only
      unfold Eval.step
      have silent : ({ (session.keeping kept).world with output := #[] } : World) =
          World.keeping { session.world with output := #[] } kept := rfl
      have scope : (session.keeping kept).scope = session.scope := rfl
      rw [silent, scope]
      generalize program.evalHolding forgets session.scope _ _ = leftEnd at ended ⊢
      generalize program.eval session.scope _ = rightEnd at ended ⊢
      cases ended with
      | ok view => exact ⟨_, rfl, view⟩
      | @error stop _ _ view => cases stop <;> exact ⟨_, rfl, view⟩

theorem turns_same (safe : forgets.Safe) {session : Session} {kept : Heap} {values : List Value}
    (view : (session.held values).SameView session.world.heap kept) (turns : List Turn) :
    List.Forall₂ (fun turn step => turn.1.SameFor (session.held turn.2) step)
      (session.turns forgets values turns)
      ((session.keeping kept).steps (turns.map (·.source))) := by
  induction turns generalizing session kept values with
  | nil => exact .nil
  | cons turn rest induction =>
      let step := session.runHolding forgets values turn.source
      let session' : Session := { session with world := step.world }
      obtain ⟨later, same, view'⟩ := runHolding_same safe view turn.source
      have first : step.SameFor (session.held (step.values ++ values))
          ((session.keeping kept).run turn.source) := by
        rw [same]
        exact view'.step rfl rfl
      have dropped : (session'.held (turn.hold (step.values ++ values))).SameView
          session'.world.heap later :=
        view'.weaken (List.Subset.refl _) fun _ member =>
          Held.knows_of_mem (turn.among _ member)
      have after : (session.keeping kept).after turn.source = session'.keeping later := by
        rw [Session.after, same]
        rfl
      rw [List.map_cons, steps, after]
      exact .cons first (induction dropped)

/-- What is held when a session starts is the same if nothing is forgotten from then on. -/
theorem start_sameView (limits : Limits) (readings : Readings) :
    ((start limits readings).held []).SameView (start limits readings).world.heap
      (start limits readings).world.heap := by
  have invariant := start_invariant limits readings
  generalize start limits readings = session at invariant ⊢
  exact .refl invariant.ordered fun id member => invariant.opened id member

/-- Whatever turns its host takes, a session that forgets by a rule makes the steps of the session
that forgets nothing. -/
def Unobservable (forgets : Forgetting) (session : Session) : Prop :=
  ∀ turns : List Turn,
    List.Forall₂ (fun turn step => turn.1.SameFor (session.held turn.2) step)
      (session.turns forgets [] turns)
      ((session.keeping session.world.heap).steps (turns.map (·.source)))

theorem start_unobservable (safe : forgets.Safe) (limits : Limits) (readings : Readings) :
    (start limits readings).Unobservable forgets :=
  fun turns => turns_same safe (start_sameView limits readings) turns

/-- A scope that ends when only its own functions hold it, apart from the frame that ends, is not
found from anything else that is held.  Sessions that forget the bindings of these scopes, and
sessions as they are, are therefore the same as those that forget nothing. -/
theorem forgetting_unobservable (limits : Limits) (readings : Readings) :
    (∀ (heap : Heap) (held : Held) (scope : ScopeId),
        heap.handles (held.opened scope) (.scope scope) =
            1 + (heap.captures (held.opened scope) scope).length →
          ¬ heap.Finds held.places (.scope scope)) ∧
      (start limits readings).Unobservable .counted ∧
      (start limits readings).Unobservable .retained ∧
      ∀ turns : List Turn, ((start limits readings).turns .retained [] turns).map (·.1) =
        (start limits readings).steps (turns.map (·.source)) := by
  refine ⟨fun heap held scope counted => ?_, start_unobservable Forgetting.counted_safe _ _,
    start_unobservable Forgetting.retained_safe _ _, turns_retained _ []⟩
  exact Heap.not_finds_of_isolates (beq_iff_eq.mpr counted)

/-- A block that ends with a function that nothing else names. -/
theorem forgetting_unobservable_block :
    let heap := Heap.definingBlock
    let held : Held := ⟨[⟨0⟩], []⟩
    heap.handles (held.opened ⟨1⟩) (.scope ⟨1⟩) =
        1 + (heap.captures (held.opened ⟨1⟩) ⟨1⟩).length ∧
      ¬ heap.Finds held.places (.scope ⟨1⟩) :=
  ⟨by decide, (forgetting_unobservable .standard (Readings.seeded 0 0)).1 _ _ _ (by decide)⟩

end Session

end Avenger
