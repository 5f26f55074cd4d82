import Avenger.Proofs.Constants.Invariant

/-!
# Runs that handle proper values only

The value of a stopped program is no proper value.  A run is contained if, from every moment
without such a value in the heap, it passes only moments without one and gives a result without
one.  One rule for each way to combine runs.
-/

namespace Avenger

/-- Every value but that of a stopped program. -/
def Value.Proper (value : Value) : Prop := value ≠ .stopped

@[simp] theorem Value.proper_null : Value.null.Proper := nofun

@[simp] theorem Value.proper_number (value : Float) : (Value.number value).Proper := nofun

@[simp] theorem Value.proper_boolean (value : Bool) : (Value.boolean value).Proper := nofun

@[simp] theorem Value.proper_text (value : String) : (Value.text value).Proper := nofun

@[simp] theorem Value.proper_team (id : TeamId) : (Value.team id).Proper := nofun

@[simp] theorem Value.proper_routine (id : RoutineId) : (Value.routine id).Proper := nofun

/-- A flow whose value, if it has one, is proper. -/
def Flow.Proper : Flow → Prop
  | .normal value => value.Proper
  | .snap value => value.Proper
  | .endGame => True

/-- Scopes bind proper values only. -/
def Scope.Proper (scope : Scope) : Prop := ∀ binding ∈ scope.bindings, binding.value.Proper

/-- A heap without the value of a stopped program. -/
structure Heap.Proper (heap : Heap) : Prop where
  scopes : ∀ {id scope}, heap.scope? id = some scope → scope.Proper
  elements : ∀ {id team}, heap.team? id = some team → ∀ value ∈ team.elements, value.Proper

namespace Scope.Proper

variable {scope : Scope}

theorem bind (proper : scope.Proper) (name : String) {value : Value} (good : value.Proper)
    (constant : Bool) : (scope.bind ⟨name, value, constant⟩).Proper :=
  List.forall_mem_cons.mpr ⟨good, proper⟩

theorem write (proper : scope.Proper) (name : String) {value : Value} (good : value.Proper) :
    (scope.write name value).Proper := by
  refine List.forall_mem_map.mpr fun binding member => ?_
  split
  · exact good
  · exact proper binding member

theorem clear (scope : Scope) : scope.clear.Proper := List.forall_mem_nil _

theorem bindAll {names : List String} {values : List Value} {made : Scope}
    (proper : scope.Proper) (good : ∀ value ∈ values, value.Proper)
    (bound : scope.bindAll names values = .ok made) : made.Proper := by
  induction names generalizing scope values with
  | nil =>
      cases bound
      exact proper
  | cons name names induction =>
      cases values with
      | nil =>
          cases bound
          exact proper
      | cons value values =>
          obtain ⟨first, good⟩ := List.forall_mem_cons.mp good
          unfold Scope.bindAll at bound
          split at bound
          · cases bound
          · exact induction (proper.bind name first false) good bound

end Scope.Proper

namespace Heap.Proper

variable {heap : Heap}

theorem empty : Heap.empty.Proper where
  scopes := by
    intro id scope found
    cases found
  elements := by
    intro id team found
    cases found

theorem modifyScope (proper : heap.Proper) (id : ScopeId) {change : Scope → Scope}
    (keeps : ∀ scope, scope.Proper → (change scope).Proper) :
    (heap.modifyScope id change).Proper := by
  refine ⟨fun {other scope} found => ?_, proper.elements⟩
  rw [Heap.scope?_modifyScope] at found
  split at found
  · obtain ⟨before, stood, rfl⟩ := Option.map_eq_some_iff.mp found
    exact keeps before (proper.scopes stood)
  · exact proper.scopes found

theorem addScope (proper : heap.Proper) {scope : Scope} (good : scope.Proper) :
    (heap.addScope scope).Proper := by
  refine ⟨fun {other added} found => ?_, proper.elements⟩
  rw [Heap.scope?_addScope] at found
  split at found
  · cases found
    exact good
  · exact proper.scopes found

theorem addTeam (proper : heap.Proper) {team : Team}
    (good : ∀ value ∈ team.elements, value.Proper) : (heap.addTeam team).Proper := by
  refine ⟨proper.scopes, fun {id added} found => ?_⟩
  rw [Heap.team?_addTeam] at found
  split at found
  · cases found
    exact good
  · exact proper.elements found

theorem addRoutine (proper : heap.Proper) (routine : Routine) : (heap.addRoutine routine).Proper :=
  ⟨proper.scopes, proper.elements⟩

theorem setElement (proper : heap.Proper) (id : TeamId) (position : Nat) {value : Value}
    (good : value.Proper) : (heap.setElement id position value).Proper := by
  refine ⟨proper.scopes, fun {other team} found => ?_⟩
  unfold Heap.setElement at found
  rw [Heap.team?_modifyTeam] at found
  split at found
  · obtain ⟨before, stood, rfl⟩ := Option.map_eq_some_iff.mp found
    intro element member
    rcases Array.mem_or_eq_of_mem_setIfInBounds member with old | rfl
    · exact proper.elements stood element old
    · exact good
  · exact proper.elements found

theorem bind (proper : heap.Proper) (id : ScopeId) (name : String) {value : Value}
    (good : value.Proper) (constant : Bool) : (heap.bind id ⟨name, value, constant⟩).Proper :=
  proper.modifyScope id fun _ scope => scope.bind name good constant

theorem write (proper : heap.Proper) (id : ScopeId) (name : String) {value : Value}
    (good : value.Proper) : (heap.write id name value).Proper :=
  proper.modifyScope id fun _ scope => scope.write name good

theorem clear (proper : heap.Proper) (id : ScopeId) : (heap.clear id).Proper :=
  proper.modifyScope id fun scope _ => .clear scope

theorem lookup (proper : heap.Proper) {id : ScopeId} {name : String} {value : Value}
    (found : heap.lookup id name = .ok value) : value.Proper := by
  unfold Heap.lookup at found
  split at found
  · next owner binding resolved =>
      cases found
      have bound := Heap.binding?_of_resolve? resolved
      obtain ⟨scope, present, found⟩ := Option.bind_eq_some_iff.mp bound
      exact proper.scopes present binding (List.mem_of_find?_eq_some found)
  · cases found

theorem element (proper : heap.Proper) (id : TeamId) (position : Nat) :
    ((heap.elements id)[position]?.getD .null).Proper := by
  unfold Heap.elements
  cases found : heap.team? id with
  | none => exact Value.proper_null
  | some team =>
      cases present : team.elements[position]? with
      | none => simp [present, Value.Proper]
      | some value =>
          have member := Array.mem_of_getElem? present
          simpa [present] using proper.elements found value member

theorem callScope {routine : Routine} {arguments : List Value}
    {caller : ScopeId} {scope : Scope} (good : ∀ argument ∈ arguments, argument.Proper)
    (made : heap.callScope routine arguments caller = .ok scope) : scope.Proper := by
  obtain ⟨-, bound⟩ := Heap.callScope_ok made
  have empty : (heap.callOf routine.closure (heap.depth caller)).Proper := List.forall_mem_nil _
  exact empty.bindAll good bound

end Heap.Proper

theorem World.endScope_proper {world : World} (proper : world.heap.Proper) (scope : ScopeId)
    (routines : Nat) : (world.endScope scope routines).heap.Proper := by
  unfold World.endScope
  split
  · exact proper.clear scope
  · exact proper

namespace Eval

/-- A run in a scope that keeps to proper values: from every moment without another value in the
heap it passes only such moments, and what it gives is good. -/
def Contained {α : Type} (scope : ScopeId) (good : α → Prop) (run : Eval α) : Prop :=
  ∀ now : Moment, now.scope = scope → now.world.heap.Proper →
    ∃ passed later, Trail run now passed later ∧
      (∀ moment ∈ passed, moment.world.heap.Proper) ∧ later.world.heap.Proper ∧
      ∀ {result world}, run now.world = .ok result world → good result

namespace Contained

variable {α β : Type} {scope : ScopeId} {good : α → Prop} {good' : β → Prop}

/-- A primitive run passes one moment, after it. -/
theorem primitive {run : Eval α} {declares : Option Binding}
    (primitive : Primitive scope run declares)
    (keeps : ∀ world, world.heap.Proper → (last (run world)).heap.Proper)
    (results : ∀ {world later result}, world.heap.Proper → run world = .ok result later →
      good result) : Contained scope good run := by
  rintro now rfl proper
  have after : (now.after run declares).world.heap.Proper := by
    rw [Moment.after_world]
    exact keeps _ proper
  exact ⟨_, _, .primitive primitive, List.forall_mem_singleton.mpr after, after,
    fun ended => results proper ended⟩

theorem pure {result : α} (is : good result) : Contained scope good (Pure.pure result) :=
  primitive (.pure result) (fun _ proper => proper) fun _ ended => by cases ended; exact is

theorem stop (stop : Stop) : Contained scope good (throw stop : Eval α) :=
  primitive (.stop stop) (fun _ proper => proper) fun _ ended => nomatch ended

theorem fail (fault : Fault) : Contained scope good (Eval.fail fault : Eval α) := stop _

theorem ofExcept {result : Except Fault α} (is : ∀ value, result = .ok value → good value) :
    Contained scope good (Eval.ofExcept result) := by
  cases result with
  | ok value => exact pure (is value rfl)
  | error fault => exact fail fault

theorem readHeap {read : Heap → α} (is : ∀ heap : Heap, heap.Proper → good (read heap)) :
    Contained scope good (Eval.readHeap read) :=
  primitive (.readHeap read) (fun _ proper => proper)
    fun proper ended => by cases ended; exact is _ proper

theorem print (line : String) : Contained scope (fun _ => True) (Eval.print line) :=
  primitive (.print line) (fun _ proper => proper) fun _ _ => trivial

theorem readClock : Contained scope (fun _ => True) Eval.readClock :=
  primitive .readClock (fun _ proper => proper) fun _ _ => trivial

theorem readChance : Contained scope (fun _ => True) Eval.readChance :=
  primitive .readChance (fun _ proper => proper) fun _ _ => trivial

theorem declare (name : String) {value : Value} (is : value.Proper) (constant : Bool) :
    Contained scope Value.Proper (Eval.declare scope name value constant) := by
  refine primitive (.declare name value constant) (fun world proper => ?_)
    fun {world later result} _ ended => ?_
  · rw [declare_apply]
    split
    · exact proper
    · exact proper.bind scope name is constant
  · rw [declare_apply] at ended
    split at ended <;> cases ended
    exact is

theorem assign (name : String) {value : Value} (is : value.Proper) :
    Contained scope Value.Proper (Eval.assign scope name value) := by
  refine primitive (.assign name value) (fun world proper => ?_)
    fun {world later result} _ ended => ?_
  · rw [assign_apply]
    split
    · exact proper.write _ name is
    · exact proper
  · rw [assign_apply] at ended
    split at ended <;> cases ended
    exact is

theorem writeElement (id : TeamId) (index : Value) {value : Value} (is : value.Proper) :
    Contained scope Value.Proper (Eval.writeElement id index value) := by
  refine primitive (.writeElement id index value) (fun world proper => ?_)
    fun {world later result} _ ended => ?_
  · rw [writeElement_apply]
    split
    · exact proper.setElement id _ is
    · exact proper
  · rw [writeElement_apply] at ended
    split at ended <;> cases ended
    exact is

theorem newTeam {team : Team} (is : ∀ value ∈ team.elements, value.Proper) :
    Contained scope Value.Proper (Eval.newTeam team) :=
  primitive (.newTeam team) (fun _ proper => proper.addTeam is)
    fun _ ended => by cases ended; exact Value.proper_team _

theorem newRoutine {routine : Routine} (inside : routine.closure = scope) :
    Contained scope Value.Proper (Eval.newRoutine routine) :=
  primitive (.newRoutine routine inside) (fun _ proper => proper.addRoutine routine)
    fun _ ended => by cases ended; exact Value.proper_routine _

theorem bind {run : Eval α} {next : α → Eval β} (first : Contained scope good run)
    (second : ∀ result, good result → Contained scope good' (next result)) :
    Contained scope good' (run >>= next) := by
  intro now here proper
  obtain ⟨passed, middle, trail, each, stands, results⟩ := first now here proper
  have world := trail.world_eq
  cases ended : run now.world with
  | error stop between =>
      obtain rfl : middle.world = between := by rw [world, ended]; rfl
      refine ⟨passed, middle, trail.failed ended, each, stands, fun ended' => ?_⟩
      rw [bind_of_error ended] at ended'
      cases ended'
  | ok result between =>
      obtain rfl : middle.world = between := by rw [world, ended]; rfl
      obtain ⟨passed', later, rest, each', last, results'⟩ :=
        second result (results ended) middle (trail.opened_eq.1.trans here) stands
      refine ⟨passed ++ passed', later, trail.bind ended rest,
        List.forall_mem_append.mpr ⟨each, each'⟩, last, fun ended' => ?_⟩
      rw [bind_of_ok ended] at ended'
      exact results' ended'

/-- Nothing need be known of the first result. -/
theorem andThen {run : Eval α} {next : α → Eval β} (first : Contained scope (fun _ => True) run)
    (second : ∀ result, Contained scope good' (next result)) :
    Contained scope good' (run >>= next) :=
  first.bind fun result _ => second result

theorem atLine {run : Eval α} (line : Nat) (inside : Contained scope good run) :
    Contained scope good (Eval.atLine line run) := by
  intro now here proper
  obtain ⟨passed, later, trail, each, last, results⟩ := inside now here proper
  refine ⟨passed, later, trail.atLine line, each, last, fun {result world} ended => ?_⟩
  unfold Eval.atLine at ended
  cases ran : run now.world with
  | ok result' world' =>
      rw [ran] at ended
      cases ended
      exact results ran
  | error stop world' =>
      rw [ran] at ended
      cases stop <;> cases ended

theorem inBlock {run : ScopeId → Eval α} {bindings : List Binding}
    (plain : ∀ binding ∈ bindings, binding.constant = false)
    (are : ∀ binding ∈ bindings, binding.value.Proper)
    (inside : ∀ inner, Contained inner good (run inner)) :
    Contained scope good (Eval.inScope (·.blockOf scope bindings) run) := by
  rintro now rfl proper
  have opened : (now.enter (now.world.heap.blockOf now.scope bindings)).world.heap.Proper :=
    proper.addScope are
  obtain ⟨passed, inner, trail, each, last, results⟩ := inside now.world.heap.nextScope _ rfl opened
  have closed : (now.leave inner).world.heap.Proper := World.endScope_proper last _ _
  refine ⟨_, _, .block bindings plain trail, ?_, closed, fun {result world} ended => ?_⟩
  · exact List.forall_mem_append.mpr ⟨List.forall_mem_cons.mpr ⟨opened, each⟩,
      List.forall_mem_singleton.mpr closed⟩
  · cases ran : run now.world.heap.nextScope
        (now.world.mapHeap (·.addScope (now.world.heap.blockOf now.scope bindings))) with
    | ok result' later =>
        rw [inScope_of_ok ran] at ended
        cases ended
        exact results ran
    | error stop later =>
        rw [inScope_of_error ran] at ended
        cases ended

theorem inChild {run : ScopeId → Eval α} (inside : ∀ inner, Contained inner good (run inner)) :
    Contained scope good (Eval.inChild scope run) :=
  inBlock (List.forall_mem_nil _) (List.forall_mem_nil _) inside

/-- A call gives a proper value if its body ends with a proper flow: an `endGame` that leaves the
body makes it null. -/
theorem call {run : Routine → ScopeId → Eval Flow} (id : RoutineId) {arguments : List Value}
    (are : ∀ argument ∈ arguments, argument.Proper)
    (inside : ∀ routine inner, Contained inner Flow.Proper (run routine inner)) :
    Contained scope Value.Proper (callRoutine run id arguments scope) := by
  rintro now rfl proper
  have unfolded := callRoutine_apply run id arguments now.scope now.world
  rcases call_cases now.world.heap id arguments now.scope with ⟨routine, made, found, opens⟩ | no
  · have opened : (now.enter made).world.heap.Proper :=
      proper.addScope (Heap.Proper.callScope are opens)
    obtain ⟨passed, inner, trail, each, last, results⟩ :=
      inside routine now.world.heap.nextScope (now.enter made) rfl opened
    have closed : (now.leave inner).world.heap.Proper := World.endScope_proper last _ _
    refine ⟨_, _, .call found opens trail, ?_, closed, fun {result world} ended => ?_⟩
    · exact List.forall_mem_append.mpr ⟨List.forall_mem_cons.mpr ⟨opened, each⟩,
        List.forall_mem_singleton.mpr closed⟩
    · rw [unfolded, found] at ended
      dsimp only at ended
      rw [opens] at ended
      dsimp only at ended
      cases ran : run routine now.world.heap.nextScope
          (now.world.mapHeap (·.addScope made)) with
      | error stop later =>
          rw [bind_of_error (inScope_of_error ran)] at ended
          cases ended
      | ok flow later =>
          rw [bind_of_ok (inScope_of_ok ran)] at ended
          have is := results ran
          cases flow with
          | snap value =>
              cases ended
              exact is
          | normal _ | endGame =>
              cases ended
              exact Value.proper_null
  · refine ⟨_, _, .refused no, List.forall_mem_nil _, proper, fun {result world} ended => ?_⟩
    rw [unfolded] at ended
    cases found : now.world.heap.routine? id with
    | none =>
        rw [found] at ended
        cases ended
    | some routine =>
        rw [found] at ended
        dsimp only at ended
        cases made : now.world.heap.callScope routine arguments now.scope with
        | ok scope => exact absurd made (no routine scope found)
        | error fault =>
            rw [made] at ended
            cases ended

theorem lookup (name : String) : Contained scope Value.Proper (Eval.lookup scope name) :=
  (readHeap fun _ proper _ found => proper.lookup found).bind fun _ is => ofExcept is

/-- Something of the heap that is no value. -/
theorem readAny (read : Heap → α) : Contained scope (fun _ => True) (Eval.readHeap read) :=
  readHeap fun _ _ => trivial

theorem checkAny (result : Except Fault α) :
    Contained scope (fun _ => True) (Eval.ofExcept result) :=
  ofExcept fun _ _ => trivial

theorem reserve (name : String) : Contained scope (fun _ => True) (Eval.reserve scope name) := by
  refine (readAny _).andThen fun bound => ?_
  cases bound with
  | true => exact fail _
  | false => exact pure trivial

theorem writeCharacter (name text : String) (index : Value) {value : Value} (is : value.Proper) :
    Contained scope Value.Proper (Eval.writeCharacter scope name text index value) := by
  refine (readAny _).andThen fun spliced => (checkAny spliced).andThen fun spliced => ?_
  exact (assign name (Value.proper_text spliced)).bind fun _ _ => pure is

end Contained

end Eval

end Avenger
