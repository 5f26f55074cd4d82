import Avenger.Proofs.Forgetting.Holding
import Avenger.Proofs.Forgetting.View

/-!
# Runs that forgetting does not affect

A run that is told what is held, in a world that may have forgotten bindings, is compared with
the run in the world that keeps them all: both end alike, and the worlds are the same as seen
from what is held and what the result names.  One rule for each way to combine runs and for each
primitive operation.
-/

namespace Avenger

/-- The world with another heap and nothing forgotten. -/
def World.keeping (world : World) (kept : Heap) : World :=
  { world with heap := kept, retention := .keep }

@[simp] theorem World.keeping_heap (world : World) (kept : Heap) :
    (world.keeping kept).heap = kept := rfl

/-- The world that keeps everything does so when a scope ends. -/
theorem World.keeping_endScope (world : World) (kept : Heap) (scope : ScopeId) (routines : Nat) :
    (world.keeping kept).endScope scope routines = world.keeping kept := by
  simp [keeping, endScope]

theorem World.keeping_forget (world : World) (kept : Heap) (forgets : Forgetting) (held : Held)
    (scope : ScopeId) (routines : Nat) :
    (world.forget forgets held scope routines).keeping kept = world.keeping kept := by
  unfold forget
  split <;> rfl

/-- The values with which a flow leaves a loop. -/
def Flow.leaving : Flow → List Value
  | .snap value => [value]
  | .normal _ | .endGame => []

namespace Held

variable {α β : Type} {held : Held} {extra : List Value} {names : α → List Value}
  {names' : β → List Value}

/-- What is found from values that are held is found when others are held that know them. -/
theorem SameView.among {heap kept : Heap} {values : List Value}
    (view : (held.and extra).SameView heap kept)
    (known : ∀ value ∈ values, (held.and extra).Knows kept value) :
    (held.and values).SameView heap kept :=
  view.weaken (List.Subset.refl _)
    (List.forall_mem_append.mpr
      ⟨known, fun _ member => knows_of_mem (List.mem_append_right extra member)⟩)

theorem SameView.drop {heap kept : Heap} (view : (held.and extra).SameView heap kept) :
    held.SameView heap kept :=
  view.among (List.forall_mem_nil _)

/-- The value that was held last stays held. -/
theorem SameView.last {heap kept : Heap} {value : Value}
    (view : ((held.and extra).and [value]).SameView heap kept) :
    (held.and [value]).SameView heap kept := by
  have within : (held.and [value]).values ⊆ ((held.and extra).and [value]).values :=
    List.cons_subset_cons _ (List.subset_append_right _ _)
  exact view.weaken (List.Subset.refl _) fun _ member => knows_of_mem (within member)

theorem finds_opened {heap : Heap} {scope : ScopeId} (opened : scope ∈ held.scopes) :
    heap.Finds (held.and extra).places (.scope scope) :=
  have opened : scope ∈ (held.and extra).scopes := opened
  finds_of_mem opened

/-- How the two runs have ended. -/
inductive Outcome (held : Held) {α : Type} (names : α → List Value) :
    EStateM.Result Eval.Stop World α → EStateM.Result Eval.Stop World α → Prop where
  | ok {result : α} {world : World} {kept : Heap}
      (view : (held.and (names result)).SameView world.heap kept) :
      Outcome held names (.ok result world) (.ok result (world.keeping kept))
  | error {stop : Eval.Stop} {world : World} {kept : Heap}
      (view : held.SameView world.heap kept) :
      Outcome held names (.error stop world) (.error stop (world.keeping kept))

/-- Two runs, while some values are held and others may be used, end alike in worlds that are the
same as seen from there. -/
def Unaffected (held : Held) (extra : List Value) (names : α → List Value)
    (left right : Eval α) : Prop :=
  ∀ world kept, (held.and extra).SameView world.heap kept →
    held.Outcome names (left world) (right (world.keeping kept))

/-- Both heaps were changed alike. -/
theorem Outcome.mapHeap {result : α} {world : World} {kept : Heap} {change : Heap → Heap}
    (view : (held.and (names result)).SameView (change world.heap) (change kept)) :
    held.Outcome names (.ok result (world.mapHeap change))
      (.ok result ((world.keeping kept).mapHeap change)) :=
  .ok view

theorem Outcome.bind {left right : Eval α} {left' right' : α → Eval β} {world : World}
    {kept : Heap} (ended : held.Outcome names (left world) (right (world.keeping kept)))
    (second : ∀ result, held.Unaffected (names result) names' (left' result) (right' result)) :
    held.Outcome names' ((left >>= left') world) ((right >>= right') (world.keeping kept)) := by
  generalize leftEnded : left world = leftEnd at ended
  generalize rightEnded : right (world.keeping kept) = rightEnd at ended
  cases ended with
  | ok view =>
      rw [Eval.bind_of_ok leftEnded, Eval.bind_of_ok rightEnded]
      exact second _ _ _ view
  | error view =>
      rw [Eval.bind_of_error leftEnded, Eval.bind_of_error rightEnded]
      exact .error view

/-- Both runs go on with what is read. -/
theorem Outcome.readHeap {read : Heap → α} {left right : α → Eval β} {world : World}
    {kept : Heap} (same : read world.heap = read kept)
    (next : held.Outcome names' (left (read kept) world) (right (read kept) (world.keeping kept))) :
    held.Outcome names' ((Eval.readHeap read >>= left) world)
      ((Eval.readHeap read >>= right) (world.keeping kept)) := by
  rw [← same] at next
  have here : Eval.readHeap read world = .ok (read world.heap) world := rfl
  have there : Eval.readHeap read (world.keeping kept) =
      .ok (read world.heap) (world.keeping kept) :=
    congrArg (EStateM.Result.ok · (world.keeping kept)) same.symm
  rw [Eval.bind_of_ok here, Eval.bind_of_ok there]
  exact next

namespace Unaffected

/-! ### Ways to combine runs -/

theorem pure {result : α} (named : ∀ value ∈ names result, value ∈ extra ∨ value.Plain) :
    held.Unaffected extra names (Pure.pure result) (Pure.pure result) := by
  refine fun world kept view => .ok (view.among fun value member => ?_)
  rcases named value member with given | plain
  · exact knows_of_mem (List.mem_append_left _ given)
  · exact knows_of_plain plain

theorem stop (stop : Eval.Stop) :
    held.Unaffected extra names (throw stop) (throw stop) :=
  fun _ _ view => .error view.drop

theorem fail (fault : Fault) :
    held.Unaffected extra names (Eval.fail fault) (Eval.fail fault) := stop _

theorem ofExcept {result : Except Fault α}
    (gives : Gives (fun value => ∀ named ∈ names value, named ∈ extra ∨ named.Plain) result) :
    held.Unaffected extra names (Eval.ofExcept result) (Eval.ofExcept result) := by
  cases result with
  | ok value => exact pure (gives value rfl)
  | error fault => exact fail fault

theorem bind {left right : Eval α} {left' right' : α → Eval β}
    (first : held.Unaffected extra names left right)
    (second : ∀ result, held.Unaffected (names result) names' (left' result) (right' result)) :
    held.Unaffected extra names' (left >>= left') (right >>= right') :=
  fun world kept view => (first world kept view).bind second

/-- Fewer values are named, and more may be used. -/
theorem mono {extra' : List Value} {fewer : α → List Value} {left right : Eval α}
    (unaffected : held.Unaffected extra names left right) (more : extra ⊆ extra')
    (less : ∀ result, fewer result ⊆ names result) :
    held.Unaffected extra' fewer left right := by
  intro world kept view
  have ended := unaffected world kept
    (view.among fun value member => knows_of_mem (List.mem_append_left _ (more member)))
  generalize left world = leftEnd at ended ⊢
  generalize right (world.keeping kept) = rightEnd at ended ⊢
  cases ended with
  | ok view =>
      exact .ok (view.among fun value member =>
        knows_of_mem (List.mem_append_left _ (less _ member)))
  | error view => exact .error view

/-- Plain values need not be given. -/
theorem givenPlain {value : Value} {left right : Eval α} (is : value.Plain)
    (unaffected : held.Unaffected [value] names left right) :
    held.Unaffected extra names left right := by
  refine fun world kept view => unaffected world kept (view.among ?_)
  exact List.forall_mem_singleton.mpr (knows_of_plain is)

/-- Values that are held during a run can be used after it. -/
theorem holding {more : List Value} {left right : Eval α}
    (inside : (held.and extra).Unaffected more names left right) :
    held.Unaffected (more ++ extra) (fun result => names result ++ extra) left right := by
  have same : ∀ values : List Value,
      (held.and extra).and values = held.and (values ++ extra) := by
    intro values
    simp [Held.and]
  intro world kept view
  rw [← same] at view
  have ended := inside world kept view
  generalize left world = leftEnd at ended ⊢
  generalize right (world.keeping kept) = rightEnd at ended ⊢
  cases ended with
  | ok view =>
      refine .ok ?_
      rwa [same] at view
  | error view => exact .error view.drop

theorem atLine {left right : Eval α} (line : Nat)
    (inside : held.Unaffected extra names left right) :
    held.Unaffected extra names (Eval.atLine line left) (Eval.atLine line right) := by
  intro world kept view
  have ended := inside world kept view
  unfold Eval.atLine
  generalize left world = leftEnd at ended ⊢
  generalize right (world.keeping kept) = rightEnd at ended ⊢
  cases ended with
  | ok view => exact .ok view
  | @error stop _ _ view => cases stop <;> exact .error view

/-- Two ways to go on from a test. -/
theorem branch {test test' : Eval Bool} {yes no yes' no' : Eval β}
    (tests : held.Unaffected extra (fun _ => []) test test')
    (whenTrue : held.Unaffected [] names' yes yes')
    (whenFalse : held.Unaffected [] names' no no') :
    held.Unaffected extra names' (do if ← test then yes else no)
      (do if ← test' then yes' else no') := by
  refine tests.bind fun holds => ?_
  cases holds with
  | true => exact whenTrue
  | false => exact whenFalse

/-! ### Reading -/

theorem readHeap {read : Heap → α} (unbound : ∀ heap : Heap, read heap.emptied = read heap) :
    held.Unaffected extra (fun _ => extra) (Eval.readHeap read) (Eval.readHeap read) := by
  intro world kept view
  have result : Eval.readHeap read world = .ok (read kept) world :=
    congrArg (EStateM.Result.ok · world) (view.read _ unbound)
  rw [result]
  exact .ok view

/-- A check of the heap that gives what is known. -/
theorem check {read : Heap → Except Fault α}
    (same : ∀ {heap kept : Heap}, (held.and extra).SameView heap kept → read heap = read kept)
    (known : ∀ {heap kept : Heap}, (held.and extra).SameView heap kept →
      Gives (fun result => ∀ value ∈ names result, (held.and extra).Knows kept value)
        (read kept)) :
    held.Unaffected extra names (Eval.readHeap read >>= Eval.ofExcept)
      (Eval.readHeap read >>= Eval.ofExcept) := by
  intro world kept view
  have left : (Eval.readHeap read >>= Eval.ofExcept) world =
      Eval.ofExcept (read world.heap) world := rfl
  have right : (Eval.readHeap read >>= Eval.ofExcept) (world.keeping kept) =
      Eval.ofExcept (read kept) (world.keeping kept) := rfl
  rw [left, right, same view]
  cases given : read kept with
  | ok result => exact .ok (view.among (known view result given))
  | error fault => exact .error view.drop

theorem lookup {scope : ScopeId} (opened : scope ∈ held.scopes) (name : String) :
    held.Unaffected extra (fun value => [value]) (Eval.lookup scope name)
      (Eval.lookup scope name) :=
  check (fun view => view.lookup (finds_opened opened) name) fun _ =>
    (lookup_known (finds_opened opened) name).mono fun _ => List.forall_mem_singleton.mpr

/-- A check that does not look at bindings. -/
theorem checkPlaces {read : Heap → Except Fault α}
    (unbound : ∀ heap : Heap, read heap.emptied = read heap)
    (known : ∀ heap, Gives
      (fun result => ∀ value ∈ names result, (held.and extra).Knows heap value) (read heap)) :
    held.Unaffected extra names (Eval.readHeap read >>= Eval.ofExcept)
      (Eval.readHeap read >>= Eval.ofExcept) :=
  check (fun view => view.read _ unbound) fun _ => known _

theorem member {object : Value} (given : object ∈ extra) (index : Value) :
    held.Unaffected extra (fun value => [value])
      (Eval.readHeap (·.member object index) >>= Eval.ofExcept)
      (Eval.readHeap (·.member object index) >>= Eval.ofExcept) :=
  checkPlaces (·.member_emptied object index) fun _ =>
    (member_known (knows_of_mem (List.mem_append_left _ given)) index).mono
      fun _ => List.forall_mem_singleton.mpr

theorem reserve {scope : ScopeId} (opened : scope ∈ held.scopes) (name : String) :
    held.Unaffected extra (fun _ => extra) (Eval.reserve scope name) (Eval.reserve scope name) := by
  intro world kept view
  rw [Eval.reserve_apply, Eval.reserve_apply, World.keeping_heap,
    view.binds (finds_opened opened) name]
  by_cases bound : kept.binds scope name = true
  · rw [if_pos bound, if_pos bound]
    exact .error view.drop
  · rw [if_neg bound, if_neg bound]
    exact .ok view

theorem print (line : String) :
    held.Unaffected extra (fun _ => extra) (Eval.print line) (Eval.print line) :=
  fun _ _ view => .ok view

theorem readClock : held.Unaffected extra (fun _ => extra) Eval.readClock Eval.readClock :=
  fun _ _ view => .ok view

theorem readChance : held.Unaffected extra (fun _ => extra) Eval.readChance Eval.readChance :=
  fun _ _ view => .ok view

/-! ### Writing -/

theorem declare {scope : ScopeId} {value : Value} (opened : scope ∈ held.scopes)
    (given : value ∈ extra) (name : String) (constant : Bool) :
    held.Unaffected extra (fun value => [value]) (Eval.declare scope name value constant)
      (Eval.declare scope name value constant) := by
  intro world kept view
  rw [Eval.declare_apply, Eval.declare_apply, World.keeping_heap,
    view.binds (finds_opened opened) name]
  have known : (held.and extra).Knows kept value := knows_of_mem (List.mem_append_left _ given)
  by_cases bound : kept.binds scope name = true
  · rw [if_pos bound, if_pos bound]
    exact .error view.drop
  · rw [if_neg bound, if_neg bound]
    refine .mapHeap ((view.bind (finds_opened opened) known name constant).among ?_)
    exact List.forall_mem_singleton.mpr (knows_of_mem (List.mem_append_left _ given))

theorem assign {scope : ScopeId} {value : Value} (opened : scope ∈ held.scopes)
    (given : value ∈ extra ∨ value.Plain) (name : String) :
    held.Unaffected extra (fun value => value :: extra) (Eval.assign scope name value)
      (Eval.assign scope name value) := by
  have known (heap : Heap) : (held.and extra).Knows heap value :=
    given.elim (fun member => knows_of_mem (List.mem_append_left _ member)) knows_of_plain
  intro world kept view
  rw [Eval.assign_apply, Eval.assign_apply, World.keeping_heap,
    view.assignable (finds_opened opened) name]
  cases found : kept.assignable scope name with
  | error fault => exact .error view.drop
  | ok owner =>
      refine .mapHeap ((view.write ?_ (known kept) name).among ?_)
      · exact (finds_opened opened).assignable found
      · exact List.forall_mem_cons.mpr
          ⟨known _, fun _ member => knows_of_mem (List.mem_append_left _ member)⟩

theorem writeElement {value : Value} (given : value ∈ extra) (id : TeamId) (index : Value) :
    held.Unaffected extra (fun value => [value]) (Eval.writeElement id index value)
      (Eval.writeElement id index value) := by
  have known (heap : Heap) : (held.and extra).Knows heap value :=
    knows_of_mem (List.mem_append_left _ given)
  intro world kept view
  rw [Eval.writeElement_apply, Eval.writeElement_apply, World.keeping_heap,
    view.elements id]
  cases index.position .team (kept.elements id).size with
  | error fault => exact .error view.drop
  | ok position =>
      exact .mapHeap ((view.setElement (known kept) id position).among
        (List.forall_mem_singleton.mpr (known _)))

theorem writeCharacter {scope : ScopeId} {value : Value} (opened : scope ∈ held.scopes)
    (given : value ∈ extra) (name text : String) (index : Value) :
    held.Unaffected extra (fun value => [value])
      (Eval.writeCharacter scope name text index value)
      (Eval.writeCharacter scope name text index value) := by
  refine (readHeap (·.splicedText_emptied text index value)).bind fun spliced => ?_
  cases spliced with
  | error fault => exact fail fault
  | ok spliced =>
      refine (assign opened (.inr (Value.plain_text spliced)) name).bind fun _ => pure ?_
      exact List.forall_mem_singleton.mpr (.inl (.tail _ given))

theorem newTeam {team : Team} (given : ∀ value ∈ team.elements, value ∈ extra ∨ value.Plain) :
    held.Unaffected extra (fun value => [value]) (Eval.newTeam team) (Eval.newTeam team) := by
  intro world kept view
  have known : ∀ value ∈ team.elements, (held.and extra).Knows kept value := fun value member =>
    (given value member).elim (fun member => knows_of_mem (List.mem_append_left _ member))
      knows_of_plain
  have added := view.addTeam known
  have next : kept.nextTeam = world.heap.nextTeam :=
    congrArg (TeamId.mk ·.size) view.teams.symm
  have right : Eval.newTeam team (world.keeping kept) =
      .ok (.team world.heap.nextTeam) ((world.keeping kept).mapHeap (·.addTeam team)) := by
    rw [← next]
    rfl
  rw [right]
  exact .ok added.last

theorem newRoutine {routine : Routine} (opened : routine.closure ∈ held.scopes) :
    held.Unaffected extra (fun value => [value]) (Eval.newRoutine routine)
      (Eval.newRoutine routine) := by
  intro world kept view
  have added := view.addRoutine opened
  have next : kept.nextRoutine = world.heap.nextRoutine :=
    congrArg (RoutineId.mk ·.size) view.routines.symm
  have right : Eval.newRoutine routine (world.keeping kept) =
      .ok (.routine world.heap.nextRoutine)
        ((world.keeping kept).mapHeap (·.addRoutine routine)) := by
    rw [← next]
    rfl
  rw [right]
  exact .ok added.last

end Unaffected

end Held

/-! ### Scopes that end -/

/-- A scope ends that was opened after every other one that is held, when there were `routines`
functions. -/
structure Held.Closing (held : Held) (heap : Heap) (scope : ScopeId) (routines : Nat) :
    Prop where
  ordered : heap.Ordered
  outside : ∀ id ∈ held.scopes, id.index < scope.index
  earlier : ∀ {id : RoutineId} {routine : Routine}, heap.routine? id = some routine →
    id.index < routines → routine.closure.index < scope.index

/-- Only scopes that are not found are forgotten. -/
def Forgetting.Safe (forgets : Forgetting) : Prop :=
  ∀ {world : World} {held : Held} {scope : ScopeId} {routines : Nat},
    held.Closing world.heap scope routines → forgets world held scope routines = true →
      ¬ world.heap.Finds held.places (.scope scope)

theorem Forgetting.counted_safe : Forgetting.counted.Safe :=
  fun _ isolated => Heap.not_finds_of_isolates isolated

namespace Held.Closing

variable {held : Held} {heap : Heap} {scope : ScopeId}
  (closing : held.Closing heap scope heap.routines.size)
include closing

/-- If no function was made while a scope was open, nothing later is left when it ends: a later
scope is named by its children and by functions that were made in it only. -/
theorem index_le {id : ScopeId} (present : .scope id ∈ heap.live (held.opened scope)) :
    id.index ≤ scope.index := by
  induction later : heap.scopes.size - id.index using Nat.strongRecOn generalizing id with
  | ind distance induction =>
      obtain ⟨has, opened | ⟨other, present, link⟩⟩ := Heap.mem_live_iff.mp present
      · rcases Held.mem_places_scope.mp opened with _ | ⟨_, opened⟩
        · exact Nat.le_refl _
        · exact Nat.le_of_lt (closing.outside id opened)
      · cases link with
        | parent stands above =>
            have below := closing.ordered.parents stands above
            have bound := Heap.lt_of_scope? stands
            have early := induction _ (by omega) present rfl
            omega
        | closure stands =>
            exact Nat.le_of_lt (closing.earlier stands (Heap.lt_of_routine? stands))
        | bound _ _ names | element _ _ names => exact absurd names (Value.place?_ne_scope _ id)

/-- Nothing that is left names the scope then. -/
theorem not_link {other : Place} (present : other ∈ heap.live (held.opened scope)) :
    ¬ heap.Link other (.scope scope) := by
  intro link
  cases link with
  | parent stands above =>
      exact Nat.not_lt_of_le (closing.index_le present) (closing.ordered.parents stands above)
  | closure stands =>
      exact Nat.lt_irrefl _ (closing.earlier stands (Heap.lt_of_routine? stands))
  | bound _ _ names | element _ _ names => exact absurd names (Value.place?_ne_scope _ scope)

/-- If no function was made while a scope was open, nothing but the frame that ends holds it. -/
theorem isolates : heap.isolates held scope = true := by
  have opened : Place.scope scope ∈ (held.opened scope).places := .head _
  have captures : heap.captures (held.opened scope) scope = [] :=
    List.eq_nil_iff_forall_not_mem.mpr fun place captured =>
      closing.not_link (heap.captures_subset_live opened captured)
        (Heap.mem_captures captured).2.2
  have once : (held.opened scope).places.count (.scope scope) = 1 := by
    have split : (held.opened scope).places = .scope scope :: held.places := rfl
    rw [split, List.count_cons_self, List.count_eq_zero.mpr]
    exact fun held => Nat.lt_irrefl _ (closing.outside _ (Held.mem_places_scope.mp held))
  have named : ((heap.live (held.opened scope)).flatMap heap.references).count (.scope scope) =
      0 := by
    refine List.count_eq_zero.mpr fun member => ?_
    obtain ⟨other, present, names⟩ := List.mem_flatMap.mp member
    exact closing.not_link present (Heap.mem_references.mp names)
  rw [Heap.isolates, Heap.handles, List.count_append, once, named, captures]
  rfl

end Held.Closing

/-- What the world forgets, only the frame that ends holds. -/
theorem Forgetting.retained_safe : Forgetting.retained.Safe := by
  intro world held scope routines closing forgets
  obtain ⟨-, rfl⟩ := of_decide_eq_true forgets
  exact Heap.not_finds_of_isolates closing.isolates

namespace Held

variable {α : Type} {held : Held} {extra : List Value} {forgets : Forgetting}

theorem SameView.forget {world : World} {kept : Heap} {scope : ScopeId} {routines : Nat}
    (view : held.SameView world.heap kept) (safe : forgets.Safe)
    (closing : held.Closing world.heap scope routines) :
    held.SameView (world.forget forgets held scope routines).heap kept := by
  unfold World.forget
  split
  · next forgotten => exact view.clear (safe closing forgotten)
  · exact view

/-- A scope that was opened is not held any more. -/
theorem SameView.outer {heap kept : Heap} {scope : ScopeId} {values : List Value}
    (view : ((held.opened scope).and values).SameView heap kept) :
    (held.and values).SameView heap kept :=
  view.weaken (List.subset_cons_self _ _) fun _ member => knows_of_mem member

/-- The functions that there were when a scope was opened have stayed when it ends, and they were
defined in earlier scopes. -/
theorem SameView.closing {heap kept later kept' : Heap} {values : List Value}
    (view : (held.and extra).SameView heap kept)
    (ended : ((held.opened heap.nextScope).and values).SameView later kept')
    (keeps : ∀ {id : RoutineId} {routine : Routine}, kept.routine? id = some routine →
      kept'.routine? id = some routine) :
    (held.and values).Closing later heap.nextScope heap.routines.size := by
  refine ⟨ended.ordered, view.bound, fun {id routine} stands former => ?_⟩
  have stood : heap.routine? id = some heap.routines[id.index] := Array.getElem?_eq_getElem former
  rw [ended.routine?, keeps ((view.routine? id).symm.trans stood)] at stands
  cases stands
  exact view.ordered.closures stood

/-- A scope is opened, and ends after the run in it. -/
theorem Outcome.inScope {make : Heap → Scope} {run : ScopeId → Held → Eval Flow}
    {run' : ScopeId → Eval Flow} {world : World} {kept : Heap} (safe : forgets.Safe)
    (view : (held.and extra).SameView world.heap kept) (same : make world.heap = make kept)
    (names : ∀ place ∈ (make kept).references, kept.Finds (held.and extra).places place)
    (earlier : ∀ parent, (make kept).parent = some parent →
      parent.index < world.heap.scopes.size)
    (inside : ∀ inner, (held.opened inner).Unaffected [] Flow.values
      (run inner (held.opened inner)) (run' inner))
    (gradual : (Eval.inScope make run').Gradual) :
    held.Outcome Flow.values (held.inScope forgets make run world)
      (Eval.inScope make run' (world.keeping kept)) := by
  have next : kept.nextScope = world.heap.nextScope := congrArg ScopeId.mk view.size.symm
  have opened : (held.opened world.heap.nextScope).SameView
      (world.heap.addScope (make world.heap)) (kept.addScope (make kept)) := by
    rw [same]
    exact (view.addScope names earlier).weaken (List.Subset.refl _) fun value member =>
      knows_of_mem (List.mem_append_right extra member)
  have ended := inside world.heap.nextScope (world.mapHeap (·.addScope (make world.heap))) _ opened
  have leads := gradual (world.keeping kept)
  generalize leftEnded : run _ _ _ = leftEnd at ended
  generalize rightEnded : run' _ _ = rightEnd at ended
  have rightEnded : run' (world.keeping kept).heap.nextScope
      ((world.keeping kept).mapHeap (·.addScope (make kept))) = rightEnd := by
    rw [World.keeping_heap, next]
    exact rightEnded
  cases ended with
  | @ok flow later _ view' =>
      rw [Eval.inScope_of_ok rightEnded, World.keeping_endScope] at leads ⊢
      rw [inScope_of_ok leftEnded, ← later.keeping_forget]
      exact .ok (view'.outer.forget safe (view.closing view' leads.keeps_routine))
  | @error _ later _ view' =>
      have view' : ((held.opened world.heap.nextScope).and []).SameView later.heap _ := view'
      rw [Eval.inScope_of_error rightEnded, World.keeping_endScope] at leads ⊢
      rw [inScope_of_error leftEnded, ← later.keeping_forget]
      exact .error (view'.outer.forget safe (view.closing view' leads.keeps_routine))

namespace Unaffected

variable {scope : ScopeId} (safe : forgets.Safe)
include safe

/-- A block inside an open scope, which starts with plain values. -/
theorem inBlock {run : ScopeId → Held → Eval Flow} {run' : ScopeId → Eval Flow}
    {bindings : List Binding} (opened : scope ∈ held.scopes)
    (plain : ∀ binding ∈ bindings, binding.value.Plain)
    (inside : ∀ inner, (held.opened inner).Unaffected [] Flow.values
      (run inner (held.opened inner)) (run' inner))
    (gradual : (Eval.inScope (·.blockOf scope bindings) run').Gradual) :
    held.Unaffected extra Flow.values (held.inScope forgets (·.blockOf scope bindings) run)
      (Eval.inScope (·.blockOf scope bindings) run') := by
  intro world kept view
  have same : world.heap.blockOf scope bindings = kept.blockOf scope bindings := by
    refine view.read (·.blockOf scope bindings) fun heap => ?_
    simp only [Heap.blockOf, Heap.childOf, Heap.limits_emptied, Heap.depth_emptied]
  refine .inScope safe view same (fun place member => ?_) (fun parent above => ?_) inside gradual
  · rcases List.mem_append.mp member with above | bound
    · obtain rfl := List.mem_singleton.mp above
      exact finds_opened opened
    · obtain ⟨binding, member, names⟩ := List.mem_filterMap.mp bound
      exact knows_of_plain (plain binding member) place names
  · cases above
    exact view.bound scope opened

theorem inChild {run : ScopeId → Held → Eval Flow} {run' : ScopeId → Eval Flow}
    (opened : scope ∈ held.scopes)
    (inside : ∀ inner, (held.opened inner).Unaffected [] Flow.values
      (run inner (held.opened inner)) (run' inner))
    (gradual : (Eval.inChild scope run').Gradual) :
    held.Unaffected extra Flow.values (held.inChild forgets scope run)
      (Eval.inChild scope run') :=
  inBlock safe opened (List.forall_mem_nil _) inside gradual

/-- A call of a function that is held. -/
theorem call {run : Routine → ScopeId → Held → Eval Flow}
    {run' : Routine → ScopeId → Eval Flow} {id : RoutineId} (given : .routine id ∈ held.values)
    (arguments : List Value) (caller : ScopeId)
    (inside : ∀ routine inner, (held.opened inner).Unaffected [] Flow.values
      (run routine inner (held.opened inner)) (run' routine inner))
    (gradual : ∀ routine inner, (run' routine inner).Gradual) :
    held.Unaffected arguments (fun value => [value])
      (held.callRoutine forgets run id arguments caller)
      (Eval.callRoutine run' id arguments caller) := by
  intro world kept view
  refine .readHeap (view.routine? id) ?_
  cases found : kept.routine? id with
  | none => exact fail _ world kept view
  | some routine =>
      have same := view.read (·.callScope routine arguments caller)
        (·.callScope_emptied routine arguments caller)
      refine .readHeap same ?_
      cases made : kept.callScope routine arguments caller with
      | error fault => exact fail fault world kept view
      | ok scope =>
          obtain ⟨-, bound⟩ := Heap.callScope_ok made
          have known : kept.Finds (held.and arguments).places (.routine id) :=
            knows_of_mem (List.mem_append_right arguments given) _ rfl
          have ran : held.Outcome Flow.values (held.inScope forgets (fun _ => scope) (run routine)
              world) (Eval.inScope (fun _ => scope) (run' routine) (world.keeping kept)) := by
            refine .inScope safe view rfl (fun place member => ?_) (fun parent above => ?_)
              (inside routine) (.inScope (gradual routine))
            · rcases Scope.references_bindAll bound member with above | ⟨value, among, names⟩
              · obtain rfl := List.mem_singleton.mp above
                exact known.next (.closure found)
              · exact knows_of_mem (List.mem_append_left _ among) place names
            · rw [(Scope.bindAll_ok bound).1] at above
              cases above
              exact view.ordered.closures ((view.routine? id).trans found)
          refine ran.bind fun flow => ?_
          cases flow with
          | snap value => exact pure fun _ => .inl
          | normal _ | endGame => exact pure (List.forall_mem_singleton.mpr (.inr trivial))

end Unaffected

end Held

end Avenger
