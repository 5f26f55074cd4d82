import Avenger.Proofs.Constants
import Avenger.Proofs.Operands

/-!
# Slots of teams

A team keeps its name and its length from the moment it is made, and every step of a run writes
to at most one slot of one team.  A declaration fills the first slots of its team with its values
and all others with zero.  An assignment to a slot of a team writes that slot, however the team is
reached, and no other.  What fails writes nothing beyond what its operands have written.
-/

namespace Avenger

/-! ### The teams of a heap -/

namespace Heap

variable {heap later last : Heap} {id : TeamId} {team : Team} {position : Nat} {value : Value}

/-- The value in a slot of a team. -/
def slot? (heap : Heap) (id : TeamId) (position : Nat) : Option Value :=
  (heap.team? id).bind (·.elements[position]?)

/-- Every team is still there, with its name and its length. -/
def KeepsTeams (heap later : Heap) : Prop :=
  ∀ (id : TeamId) (team : Team), heap.team? id = some team →
    ∃ team', later.team? id = some team' ∧ team'.name = team.name ∧
      team'.elements.size = team.elements.size

/-- One slot of one team has been given a value, and nothing else about the teams differs. -/
structure Stored (heap later : Heap) (id : TeamId) (position : Nat) (value : Value) : Prop where
  here : ∃ (team : Team) (within : position < team.elements.size),
    heap.team? id = some team ∧
      later.team? id = some { team with elements := team.elements.set position value within }
  elsewhere : ∀ other, other ≠ id → later.team? other = heap.team? other

/-- A team has been added where none was, and nothing else about the teams differs. -/
structure Enlisted (heap later : Heap) (team : Team) : Prop where
  new : heap.team? heap.nextTeam = none
  here : later.team? heap.nextTeam = some team
  elsewhere : ∀ other, other ≠ heap.nextTeam → later.team? other = heap.team? other

/-- What one step makes of the teams: it writes to one slot of one of them at most, or adds one. -/
inductive TeamStep (heap later : Heap) : Prop where
  | same (same : ∀ id, later.team? id = heap.team? id)
  | stored {id : TeamId} {position : Nat} {value : Value}
      (stored : heap.Stored later id position value)
  | enlisted {team : Team} (enlisted : heap.Enlisted later team)

namespace KeepsTeams

theorem refl (heap : Heap) : heap.KeepsTeams heap := fun _ _ found => ⟨_, found, rfl, rfl⟩

theorem trans (first : heap.KeepsTeams later) (second : later.KeepsTeams last) :
    heap.KeepsTeams last := by
  intro id team found
  obtain ⟨team', found', name, size⟩ := first id team found
  obtain ⟨team'', found'', name', size'⟩ := second id team' found'
  exact ⟨team'', found'', name'.trans name, size'.trans size⟩

instance : Trans KeepsTeams KeepsTeams KeepsTeams := ⟨trans⟩

end KeepsTeams

theorem team?_nextTeam (heap : Heap) : heap.team? heap.nextTeam = none := by
  simp [team?, nextTeam]

theorem enlisted_addTeam (heap : Heap) (team : Team) : heap.Enlisted (heap.addTeam team) team where
  new := heap.team?_nextTeam
  here := by rw [team?_addTeam, if_pos rfl]
  elsewhere other apart := by rw [team?_addTeam, if_neg apart]

theorem team?_setElement_of_ne {other : TeamId} (apart : other ≠ id) :
    (heap.setElement id position value).team? other = heap.team? other := by
  rw [setElement, team?_modifyTeam, if_neg apart.symm]

theorem stored_setElement (found : heap.team? id = some team)
    (within : position < team.elements.size) (value : Value) :
    heap.Stored (heap.setElement id position value) id position value where
  here := by
    refine ⟨team, within, found, ?_⟩
    rw [setElement, team?_modifyTeam, if_pos rfl, found, Option.map_some, Array.setIfInBounds,
      dif_pos within]
  elsewhere _ apart := team?_setElement_of_ne apart

/-- Where there is no such slot, nothing is written. -/
theorem team?_setElement_outside
    (outside : ∀ team, heap.team? id = some team → team.elements.size ≤ position)
    (other : TeamId) : (heap.setElement id position value).team? other = heap.team? other := by
  by_cases same : other = id
  · subst other
    rw [setElement, team?_modifyTeam, if_pos rfl]
    cases found : heap.team? id with
    | none => rfl
    | some team => rw [Option.map_some, Array.setIfInBounds_eq_of_size_le (outside team found)]
  · exact team?_setElement_of_ne same

theorem teamStep_setElement (heap : Heap) (id : TeamId) (position : Nat) (value : Value) :
    heap.TeamStep (heap.setElement id position value) := by
  by_cases exists_slot : ∃ team, heap.team? id = some team ∧ position < team.elements.size
  · obtain ⟨team, found, within⟩ := exists_slot
    exact .stored (stored_setElement found within value)
  · apply TeamStep.same
    apply team?_setElement_outside
    intro team found
    exact Nat.le_of_not_lt fun within => exists_slot ⟨team, found, within⟩

theorem TeamStep.keepsTeams (step : heap.TeamStep later) : heap.KeepsTeams later := by
  intro id team found
  cases step with
  | same same => exact ⟨team, (same id).trans found, rfl, rfl⟩
  | @stored changed position value stored =>
      by_cases here : id = changed
      · subst id
        obtain ⟨team', within, found', changed⟩ := stored.here
        cases found.symm.trans found'
        exact ⟨_, changed, rfl, Array.size_set within⟩
      · exact ⟨team, (stored.elsewhere id here).trans found, rfl, rfl⟩
  | enlisted enlisted =>
      have apart : id ≠ heap.nextTeam := by
        rintro rfl
        cases found.symm.trans enlisted.new
      exact ⟨team, (enlisted.elsewhere id apart).trans found, rfl, rfl⟩

end Heap

/-! ### The teams in the course of a run -/

theorem World.Change.teamStep {world later : World} (change : World.Change world later) :
    world.heap.TeamStep later.heap := by
  cases change with
  | element id position value => exact world.heap.teamStep_setElement id position value
  | team team => exact .enlisted (world.heap.enlisted_addTeam team)
  | print | clock | chance | bind | write | clear | scope | routine => exact .same fun _ => rfl

/-- Whatever a run does, every team stays, with its name and its length. -/
theorem World.Leads.keepsTeams {world later : World} (leads : World.Leads world later) :
    world.heap.KeepsTeams later.heap := by
  induction leads with
  | refl => exact .refl _
  | tail _ change induction => exact induction.trans change.teamStep.keepsTeams

theorem World.teamStep_of_step {world later : World}
    (step : Relation.ReflGen World.Change world later) : world.heap.TeamStep later.heap := by
  cases step with
  | refl => exact .same fun _ => rfl
  | single change => exact change.teamStep

/-- The heaps of some moments. -/
def Moment.heaps (moments : List Moment) : List Heap := moments.map (·.world.heap)

/-- What the heaps in the course of a run are to each other: from one to the next a slot of a team
is written or a team is added at most, and from any one to any later one no team loses its name or
its length. -/
structure Heap.TeamsKept (heaps : List Heap) : Prop where
  steps : heaps.IsChain Heap.TeamStep
  lasting : heaps.Pairwise Heap.KeepsTeams

theorem Heap.TeamsKept.of_steps {heaps : List Heap} (steps : heaps.IsChain Heap.TeamStep) :
    Heap.TeamsKept heaps where
  steps := steps
  lasting := (steps.imp fun _ _ step => step.keepsTeams).pairwise

theorem Moment.Path.teamSteps {first last : Moment} {passed : List Moment}
    (path : Path first passed last) :
    (Moment.heaps (first :: passed)).IsChain Heap.TeamStep ∧
      (Moment.heaps (first :: passed)).getLast? = some last.world.heap := by
  constructor
  · rw [Moment.heaps, List.isChain_map]
    exact path.chain.imp fun _ _ step => World.teamStep_of_step step
  · rw [Moment.heaps, List.getLast?_map, path.ends]
    rfl

/-- The steps of a session are those of its sources. -/
theorem Session.Record.teamSteps {session : Session} {declared : List (ScopeId × Binding)}
    {sources : List String} {moments : List Moment}
    (record : Session.Record session declared sources moments) :
    (Moment.heaps moments).IsChain Heap.TeamStep ∧
      (Moment.heaps moments).head? = some session.world.heap := by
  have still (heap : Heap) : heap.TeamStep heap := .same fun _ => rfl
  induction record with
  | done => exact ⟨List.isChain_singleton _, rfl⟩
  | @unread session declared source sources moments error unread rest induction =>
      obtain ⟨steps, head⟩ := induction
      refine ⟨List.isChain_cons.mpr ⟨fun next isHead => ?_, steps⟩, rfl⟩
      change next ∈ (Moment.heaps moments).head? at isHead
      rw [head, Session.after_of_unread unread] at isHead
      cases isHead
      exact still _
  | @ran session declared source sources passed moments program last read trail rest induction =>
      obtain ⟨steps, head⟩ := induction
      obtain ⟨during, ends⟩ := trail.path.teamSteps
      refine ⟨?_, rfl⟩
      rw [Moment.heaps, List.map_append]
      apply during.append steps
      intro before isLast next isHead
      rw [ends] at isLast
      rw [head] at isHead
      cases isLast
      cases isHead
      have same : last.world = (session.after source).world :=
        congrArg Moment.world (Session.eq_moment read trail)
      rw [same]
      exact still _

/-! ### What is read after an assignment -/

namespace Heap

variable {heap later : Heap} {id : TeamId} {position : Nat} {value : Value}

theorem member_team (heap : Heap) (id : TeamId) (index : Value) :
    heap.member (.team id) index =
      (index.position .team (heap.elements id).size).map fun position =>
        (heap.elements id)[position]?.getD .null := by
  show (do
    let position ← index.position .team (heap.elements id).size
    return (heap.elements id)[position]?.getD .null) = _
  cases index.position .team (heap.elements id).size <;> rfl

theorem elements_of_team? {team : Team} (found : heap.team? id = some team) :
    heap.elements id = team.elements := by
  simp [elements, found]

/-- Reading a member that is not in a team does not need the heap. -/
theorem member_congr {object : Value} (same : ∀ id, object = .team id →
    later.elements id = heap.elements id) (index : Value) :
    later.member object index = heap.member object index := by
  cases object with
  | team id => rw [member_team, member_team, same id rfl]
  | number | text | boolean | null | routine | native | stopped => rfl

namespace Stored

variable (stored : heap.Stored later id position value)
include stored

theorem elements_here : ∃ within : position < (heap.elements id).size,
    later.elements id = (heap.elements id).set position value within := by
  obtain ⟨team, within, found, changed⟩ := stored.here
  have before := elements_of_team? found
  refine ⟨before ▸ within, ?_⟩
  rw [elements_of_team? changed]
  simp only [before]

theorem elements_elsewhere {other : TeamId} (apart : other ≠ id) :
    later.elements other = heap.elements other := by
  rw [elements, elements, stored.elsewhere other apart]

theorem member_here {index : Value}
    (found : index.position .team (heap.elements id).size = .ok position) :
    later.member (.team id) index = .ok value := by
  obtain ⟨within, changed⟩ := stored.elements_here
  rw [member_team, changed, Array.size_set, found]
  simp [Except.map]

theorem member_elsewhere {object index : Value}
    (apart : ¬(object = .team id ∧
      index.position .team (heap.elements id).size = .ok position)) :
    later.member object index = heap.member object index := by
  by_cases same : object = .team id
  · subst same
    obtain ⟨within, changed⟩ := stored.elements_here
    rw [member_team, member_team, changed, Array.size_set]
    cases found : index.position .team (heap.elements id).size with
    | error fault => rfl
    | ok other =>
        have different : position ≠ other := by
          rintro rfl
          exact apart ⟨rfl, found⟩
        simp [Except.map, different]
  · apply member_congr
    rintro other rfl
    apply stored.elements_elsewhere
    rintro rfl
    exact same rfl

end Stored

end Heap

/-- What an assignment to a slot of a team has done: it has given the slot its value, and nothing
else in the world differs.  Whichever way the team is reached, the slot reads as the value, and
everything else reads as before. -/
structure World.SlotWritten (before later : World) (id : TeamId) (position : Nat)
    (value : Value) : Prop where
  only : later = before.mapHeap (·.setElement id position value)
  stored : before.heap.Stored later.heap id position value
  here : ∀ index, index.position .team (before.heap.elements id).size = .ok position →
    later.heap.member (.team id) index = .ok value
  elsewhere : ∀ object index,
    ¬(object = .team id ∧ index.position .team (before.heap.elements id).size = .ok position) →
      later.heap.member object index = before.heap.member object index
  /-- Any expressions for the team and the position that leave the team alone read the value. -/
  aliased : ∀ (invoke : Invoke) (scope : ScopeId) (object index : Expr) (place : Value)
    (read : World),
    Expr.evalList invoke scope [object, index] later = .ok [.team id, place] read →
    place.position .team (before.heap.elements id).size = .ok position →
    read.heap.team? id = later.heap.team? id →
      (Expr.member object index).eval invoke scope later = .ok value read

theorem World.slotWritten {world : World} {id : TeamId} {position : Nat}
    (within : position < (world.heap.elements id).size) (value : Value) :
    world.SlotWritten (world.mapHeap (·.setElement id position value)) id position value := by
  obtain ⟨team, found⟩ : ∃ team, world.heap.team? id = some team := by
    cases found : world.heap.team? id with
    | none => simp [Heap.elements, found] at within
    | some team => exact ⟨team, rfl⟩
  have stored : world.heap.Stored (world.heap.setElement id position value) id position value :=
    Heap.stored_setElement found (Heap.elements_of_team? found ▸ within) value
  constructor
  case only => rfl
  case stored => exact stored
  case here => exact fun index => stored.member_here
  case elsewhere => exact fun object index => stored.member_elsewhere
  case aliased =>
      intro invoke scope object index place read operands placed untouched
      have same : read.heap.elements id =
          (world.heap.setElement id position value).elements id := by
        rw [Heap.elements, untouched]
        rfl
      have reads : read.heap.member (.team id) place = .ok value := by
        rw [← stored.member_here placed]
        exact Heap.member_congr (by rintro _ ⟨⟩; exact same) place
      rw [Expr.eval_member_of_ok operands, reads]
      rfl

/-- What an assignment to a slot does that starts in the given world. -/
structure Expr.SlotLaws (invoke : Invoke) (scope : ScopeId) (object index value : Expr)
    (world : World) : Prop where
  done : ∀ result later,
    (Expr.assign (.member object index) value).eval invoke scope world = .ok result later →
      ∃ base place between,
        Expr.evalList invoke scope [object, index, value] world =
            .ok [base, place, result] between ∧
          ((∃ id position, base = .team id ∧
              place.position .team (between.heap.elements id).size = .ok position ∧
              between.SlotWritten later id position result) ∨
            ∃ text, base = .text text ∧ later.heap.teams = between.heap.teams)
  failed : ∀ stop later,
    (Expr.assign (.member object index) value).eval invoke scope world = .error stop later →
      later = Eval.last (Expr.evalList invoke scope [object, index, value] world)

theorem Expr.slotLaws (invoke : Invoke) (scope : ScopeId) (object index value : Expr)
    (world : World) : Expr.SlotLaws invoke scope object index value world := by
  rcases Expr.eval_slot_cases object index value world with
    ⟨base, place, result, between, operands, rest⟩ | ⟨stop, later, operands, same⟩
  · constructor
    case done =>
        intro given later ended
        rw [rest] at ended
        obtain ⟨rfl, written⟩ := Eval.storeSlot_ok ended
        refine ⟨base, place, between, operands, ?_⟩
        rcases written with ⟨id, position, rfl, found, rfl⟩ | written
        · exact .inl ⟨id, position, rfl, found,
            World.slotWritten (Value.position_lt found) given⟩
        · exact .inr written
    case failed =>
        intro stop later ended
        rw [rest] at ended
        rw [operands]
        exact Eval.storeSlot_error ended
  · constructor
    case done =>
        intro given later ended
        cases same.symm.trans ended
    case failed =>
        intro stop later ended
        cases same.symm.trans ended
        rw [operands]
        rfl

/-! ### Declarations -/

namespace Team

variable {name : String} {size position : Nat} {values : List Value}

theorem size_make (fits : values.length ≤ size) :
    (make name size values).elements.size = size := by
  simp [make]
  omega

theorem make_given (given : position < values.length) :
    (make name size values).elements[position]? = some values[position] := by
  simp [make, Array.getElem?_append, given]

theorem make_rest (rest : values.length ≤ position) (within : position < size) :
    (make name size values).elements[position]? = some (.number 0) := by
  simp [make, Array.getElem?_append, Array.getElem?_replicate, Nat.not_lt.mpr rest]
  omega

theorem size_eq_ok {provided slots : Nat} {given : Value}
    (accepted : Team.size name provided given = .ok slots) :
    ∃ number, given = .number number ∧ Number.whole? number = some slots ∧ provided ≤ slots := by
  cases given with
  | number number =>
      simp only [Team.size] at accepted
      split at accepted
      · cases accepted
      · split at accepted
        · cases accepted
        · cases accepted
        · next slots' _ found =>
            split at accepted
            · cases accepted
            · next fits =>
                cases accepted
                exact ⟨number, rfl, found, Nat.not_lt.mp fits⟩
  | text | boolean | null | team | routine | native | stopped => cases accepted

end Team

namespace Action

variable {invoke : Invoke} {scope : ScopeId}

/-- A declaration of a team evaluates its size and checks it, evaluates its values and checks its
name, and then makes the team and binds the name. -/
theorem exec_team (name : String) (size : Expr) (values : List Expr) (world : World) :
    (Action.team name size values).exec invoke scope world =
      match size.eval invoke scope world with
      | .error stop later => .error stop later
      | .ok given sized =>
          match Team.size name values.length given with
          | .error fault => .error (.error ⟨fault, none⟩) sized
          | .ok slots =>
              match Expr.evalList invoke scope values sized with
              | .error stop later => .error stop later
              | .ok elements between =>
                  if between.heap.binds scope name then
                    .error (.error ⟨.duplicate name, none⟩) between
                  else
                    .ok (.normal (.team between.heap.nextTeam))
                      ((between.mapHeap (·.addTeam (Team.make name slots elements))).mapHeap
                        (·.bind scope ⟨name, .team between.heap.nextTeam, false⟩)) := by
  rw [Action.exec]
  cases sizes : size.eval invoke scope world with
  | error stop later => exact Eval.bind_of_error sizes
  | ok given sized =>
      rw [Eval.bind_of_ok sizes]
      dsimp only
      cases Team.size name values.length given with
      | error fault => rfl
      | ok slots =>
          show (Expr.evalList invoke scope values >>= _) sized = _
          dsimp only
          cases evaluated : Expr.evalList invoke scope values sized with
          | error stop later => exact Eval.bind_of_error evaluated
          | ok elements between =>
              rw [Eval.bind_of_ok evaluated]
              dsimp only
              have reserved := Eval.reserve_apply scope name between
              have declared := Eval.declare_apply scope name (.team between.heap.nextTeam) false
                (between.mapHeap (·.addTeam (Team.make name slots elements)))
              by_cases bound : between.heap.binds scope name
              · rw [if_pos bound] at reserved ⊢
                exact Eval.bind_of_error reserved
              · rw [if_neg bound] at reserved ⊢
                refine (Eval.bind_of_ok reserved).trans ?_
                -- The new team has no part in which names the scope binds.
                exact Eval.bind_of_ok (declared.trans (if_neg bound))

/-- The expressions that a declaration evaluates, in their order. -/
def operands : Action → List Expr
  | .declare _ _ value => value.toList
  | .team _ size values => size :: values
  | _ => []

end Action

/-- What the declaration of a team has done: it has made a team of the given length with the given
values in its first slots and zero in all others, and bound the name to it.  The team keeps its
name and its length whatever is changed later. -/
structure World.TeamMade (before later : World) (scope : ScopeId) (name : String) (slots : Nat)
    (values : List Value) : Prop where
  fits : values.length ≤ slots
  made : ∃ team, before.heap.Enlisted later.heap team ∧ team.name = name ∧
    team.elements.size = slots
  given : ∀ position (within : position < values.length),
    later.heap.slot? before.heap.nextTeam position = some values[position]
  rest : ∀ position, values.length ≤ position → position < slots →
    later.heap.slot? before.heap.nextTeam position = some (.number 0)
  bound : scope.index < before.heap.scopes.size →
    later.heap.binding? scope name = some ⟨name, .team before.heap.nextTeam, false⟩
  lasting : ∀ future, World.Leads later future →
    ∃ team, future.heap.team? before.heap.nextTeam = some team ∧ team.name = name ∧
      team.elements.size = slots

theorem World.teamMade (world : World) (scope : ScopeId) (name : String) {slots : Nat}
    {values : List Value} (fits : values.length ≤ slots) :
    world.TeamMade ((world.mapHeap (·.addTeam (Team.make name slots values))).mapHeap
      (·.bind scope ⟨name, .team world.heap.nextTeam, false⟩)) scope name slots values := by
  have enlisted : world.heap.Enlisted
      ((world.heap.addTeam (Team.make name slots values)).bind scope
        ⟨name, .team world.heap.nextTeam, false⟩) (Team.make name slots values) := by
    obtain ⟨new, here, elsewhere⟩ := world.heap.enlisted_addTeam (Team.make name slots values)
    exact ⟨new, here, elsewhere⟩
  have slot (position : Nat) : ((world.heap.addTeam (Team.make name slots values)).bind scope
      ⟨name, .team world.heap.nextTeam, false⟩).slot? world.heap.nextTeam position =
        (Team.make name slots values).elements[position]? := by
    rw [Heap.slot?, enlisted.here]
    rfl
  constructor
  case fits => exact fits
  case made => exact ⟨_, enlisted, rfl, Team.size_make fits⟩
  case given => exact fun position within => (slot position).trans (Team.make_given within)
  case rest =>
      exact fun position rest within => (slot position).trans (Team.make_rest rest within)
  case bound =>
      intro present
      exact (Heap.binding?_bind present _ scope name).trans (if_pos ⟨rfl, rfl⟩)
  case lasting =>
      intro future leads
      obtain ⟨team, found, named, size⟩ := leads.keepsTeams _ _ enlisted.here
      exact ⟨team, found, named, size.trans (Team.size_make fits)⟩

/-- What the declaration of a team does that starts in the given world and succeeds: its size and
then its values are evaluated, in their order, and then the team is made. -/
def Action.MakesTeam (invoke : Invoke) (scope : ScopeId) (name : String) (size : Expr)
    (values : List Expr) (world : World) (flow : Flow) (later : World) : Prop :=
  ∃ number slots sized elements between,
    size.eval invoke scope world = .ok (.number number) sized ∧
      Number.whole? number = some slots ∧
      Expr.evalList invoke scope values sized = .ok elements between ∧
      flow = .normal (.team between.heap.nextTeam) ∧
      between.TeamMade later scope name slots elements

/-- What is left of a declaration that has failed: the world that some first ones of its operands
have left behind, in which no scope has another name than before. -/
structure Action.Withdrawn (invoke : Invoke) (scope : ScopeId) (action : Action)
    (world later : World) : Prop where
  operands : ∃ evaluated, evaluated <+: action.operands ∧
    later = Eval.last (Expr.evalList invoke scope evaluated world)
  names : ∀ id : ScopeId, id.index < world.heap.scopes.size →
    ∀ name, later.heap.binds id name = world.heap.binds id name

section Declarations

variable {invoke : Invoke} {scope : ScopeId} {world later : World}

theorem Action.makesTeam {name : String} {size : Expr} {values : List Expr} {flow : Flow}
    (done : (Action.team name size values).exec invoke scope world = .ok flow later) :
    Action.MakesTeam invoke scope name size values world flow later := by
  rw [Action.exec_team] at done
  split at done
  · cases done
  · next given sized sizes =>
      split at done
      · cases done
      · next slots accepted =>
          split at done
          · cases done
          · next elements between evaluated =>
              split at done
              · cases done
              · cases done
                obtain ⟨number, rfl, whole, fits⟩ := Team.size_eq_ok accepted
                rw [← Expr.length_evalList evaluated] at fits
                exact ⟨number, slots, sized, elements, between, sizes, whole, evaluated, rfl,
                  between.teamMade scope name fits⟩

theorem Eval.declare_error {name : String} {value : Value} {constant : Bool} {stop : Eval.Stop}
    (failed : Eval.declare scope name value constant world = .error stop later) :
    later = world := by
  rw [Eval.declare_apply] at failed
  split at failed
  · cases failed
    rfl
  · cases failed

theorem Action.failed_operands {action : Action} {stop : Eval.Stop}
    (declares : action.declares?.isSome)
    (failed : action.exec invoke scope world = .error stop later) :
    ∃ evaluated, evaluated <+: action.operands ∧
      later = Eval.last (Expr.evalList invoke scope evaluated world) := by
  cases action with
  | declare name constant value =>
      refine ⟨value.toList, List.prefix_rfl, ?_⟩
      rw [Expr.last_evalList_toList]
      rw [Action.exec] at failed
      rcases Eval.bind_eq_error_iff.mp failed with evaluated | ⟨given, between, evaluated, failed⟩
      · rw [evaluated]
        rfl
      · rw [evaluated]
        rcases Eval.bind_eq_error_iff.mp failed with failed | ⟨_, _, _, ⟨⟩⟩
        exact Eval.declare_error failed
  | team name size values =>
      have alone : [size] <+: (Action.team name size values).operands := ⟨values, rfl⟩
      rw [Action.exec_team] at failed
      split at failed
      · next sizes =>
          cases failed
          refine ⟨[size], alone, ?_⟩
          rw [Expr.last_evalList_singleton, sizes]
          rfl
      · next given sized sizes =>
          split at failed
          · cases failed
            refine ⟨[size], alone, ?_⟩
            rw [Expr.last_evalList_singleton, sizes]
            rfl
          · split at failed
            · next evaluated =>
                cases failed
                refine ⟨size :: values, List.prefix_rfl, ?_⟩
                rw [Expr.evalList_cons_of_rest sizes evaluated]
                rfl
            · next elements between evaluated =>
                split at failed
                · cases failed
                  refine ⟨size :: values, List.prefix_rfl, ?_⟩
                  rw [Expr.evalList_cons_of_ok sizes evaluated]
                  rfl
                · cases failed
  | assemble name parameters body =>
      refine ⟨[], List.prefix_rfl, ?_⟩
      rw [Action.exec] at failed
      have reserved := Eval.reserve_apply scope name world
      by_cases bound : world.heap.binds scope name
      · rw [if_pos bound] at reserved
        cases (Eval.bind_of_error reserved).symm.trans failed
        rfl
      · rw [if_neg bound] at reserved
        rw [Eval.bind_of_ok reserved] at failed
        have declared := Eval.declare_apply scope name (.routine world.heap.nextRoutine) false
          (world.mapHeap (·.addRoutine ⟨name, parameters, body, scope⟩))
        cases (Eval.bind_of_ok (declared.trans (if_neg bound))).symm.trans failed
  | _ => cases declares

/-- A declaration that fails leaves every scope with the names that it had. -/
theorem Action.failed_names (calls : ∀ count id arguments scope,
      (invoke id arguments scope).KeepsOutlines count) {action : Action} {stop : Eval.Stop}
    (failed : action.exec invoke scope world = .error stop later) (id : ScopeId)
    (present : id.index < world.heap.scopes.size) (name : String) :
    later.heap.binds id name = world.heap.binds id name := by
  have adds := action.exec_adds calls scope world
  rw [failed] at adds
  obtain ⟨data, found⟩ := Option.isSome_iff_exists.mp (Heap.scope?_isSome.mpr present)
  have before : world.heap.outline? id = some data.outline := by
    rw [Heap.outline?, found]
    rfl
  have after : later.heap.outline? id = some data.outline := by
    by_cases here : id = scope
    · subst id
      exact adds.here before
    · exact adds.elsewhere before here
  rw [Bool.eq_iff_iff, Heap.binds_iff, Heap.binds_iff, before, after]

end Declarations

/-- Teams keep their name and their length, and change one slot at a time, in the course of every
run and of every session.  A declaration that succeeds makes its team of its values and zeros, an
assignment to a slot that succeeds writes that slot alone, and neither does anything beyond
evaluating its operands when it fails. -/
theorem teams_keep_their_slots :
    (∀ (limits : Limits) (readings : Readings) (sources : List String),
      (∃ moments, Session.Record (.start limits readings) Session.installed sources moments) ∧
      ∀ moments, Session.Record (.start limits readings) Session.installed sources moments →
        Heap.TeamsKept (Moment.heaps moments)) ∧
    (∀ (program : Program) (now : Moment),
      (∃ passed later, Eval.Trail (program.eval now.scope) now passed later) ∧
      ∀ passed later, Eval.Trail (program.eval now.scope) now passed later →
        Heap.TeamsKept (Moment.heaps (now :: passed))) ∧
    ∀ (budget : Nat) (scope : ScopeId) (world : World),
      (∀ name size values flow later,
        (Action.team name size values).exec (invokeWithin budget) scope world = .ok flow later →
          Action.MakesTeam (invokeWithin budget) scope name size values world flow later) ∧
      (∀ object index value,
        Expr.SlotLaws (invokeWithin budget) scope object index value world) ∧
      ∀ action stop later, action.declares?.isSome →
        action.exec (invokeWithin budget) scope world = .error stop later →
          Action.Withdrawn (invokeWithin budget) scope action world later := by
  refine ⟨fun limits readings sources => ⟨Session.exists_record _ _ sources, ?_⟩,
    fun program now => ⟨?_, ?_⟩, fun budget scope world => ⟨?_, ?_, ?_⟩⟩
  · intro moments record
    exact .of_steps record.teamSteps.1
  · exact Eval.HasTrail.compositional.program program trivial now rfl
  · intro passed later trail
    exact .of_steps trail.path.teamSteps.1
  · intro name size values flow later done
    exact Action.makesTeam done
  · intro object index value
    exact Expr.slotLaws (invokeWithin budget) scope object index value world
  · intro action stop later declares failed
    have calls : ∀ count id arguments scope,
        (invokeWithin budget id arguments scope).KeepsOutlines count :=
      fun count id arguments scope =>
        (Eval.KeepsOutlines.compositional count).invokeWithin budget id arguments
    exact ⟨Action.failed_operands declares failed, Action.failed_names calls failed⟩

/-- The world of a session before the constants are declared, with a team of five and zero. -/
def World.teamed : World :=
  ((Session.opened .standard (Readings.seeded 0 0)).mapHeap
    (·.addTeam (Team.make "t" 2 [.number 5]))).mapHeap (·.bind ⟨0⟩ ⟨"t", .team ⟨0⟩, false⟩)

/-- A session that writes a team into itself and then fails, and what its statements do. -/
theorem teams_keep_their_slots_self :
    (∃ moments, Session.Record (.start .standard (Readings.seeded 0 0)) Session.installed
        ["team t[2] = {5}; t[1] = t;", "t[2] = 0;"] moments ∧
      Heap.TeamsKept (Moment.heaps moments)) ∧
    (∃ passed later, Eval.Trail (Program.eval [] ⟨0⟩) ⟨World.teamed, ⟨0⟩, [], []⟩ passed later ∧
      Heap.TeamsKept (Moment.heaps (⟨World.teamed, ⟨0⟩, [], []⟩ :: passed))) ∧
    Action.MakesTeam (invokeWithin 1) ⟨0⟩ "t" (.number 2) [.number 5]
      (Session.opened .standard (Readings.seeded 0 0)) (.normal (.team ⟨0⟩)) World.teamed ∧
    (∃ later, World.teamed.SlotWritten later ⟨0⟩ 1 (.team ⟨0⟩)) ∧
    Action.Withdrawn (invokeWithin 1) ⟨0⟩ (.team "t" (.number 2) []) World.teamed World.teamed := by
  obtain ⟨sessions, runs, parts⟩ := teams_keep_their_slots
  obtain ⟨⟨moments, record⟩, kept⟩ := sessions .standard (Readings.seeded 0 0)
    ["team t[2] = {5}; t[1] = t;", "t[2] = 0;"]
  obtain ⟨⟨passed, later, trail⟩, lasting⟩ := runs [] ⟨World.teamed, ⟨0⟩, [], []⟩
  obtain ⟨made, -, -⟩ := parts 1 ⟨0⟩ (Session.opened .standard (Readings.seeded 0 0))
  obtain ⟨-, written, refused⟩ := parts 1 ⟨0⟩ World.teamed
  have declared : (Action.team "t" (.number 2) [.number 5]).exec (invokeWithin 1) ⟨0⟩
      (Session.opened .standard (Readings.seeded 0 0)) =
        .ok (.normal (.team ⟨0⟩)) World.teamed := by
    rw [Action.exec_team]
    rfl
  have again : (Action.team "t" (.number 2) []).exec (invokeWithin 1) ⟨0⟩ World.teamed =
      .error (.error ⟨.duplicate "t", none⟩) World.teamed := by
    rw [Action.exec_team]
    rfl
  have resolved : World.teamed.heap.resolve? "t" ⟨0⟩ = some (⟨0⟩, ⟨"t", .team ⟨0⟩, false⟩) := by
    rw [Heap.resolve?]
    rfl
  have looked : (Expr.name "t").eval (invokeWithin 1) ⟨0⟩ World.teamed =
      .ok (.team ⟨0⟩) World.teamed := by
    rw [Expr.eval]
    exact Eval.lookup_of_resolve? resolved
  have operands : Expr.evalList (invokeWithin 1) ⟨0⟩ [.name "t", .number 1, .name "t"]
      World.teamed = .ok [.team ⟨0⟩, .number 1, .team ⟨0⟩] World.teamed :=
    Expr.evalList_cons_of_ok looked (Expr.evalList_cons_of_ok rfl
      (Expr.evalList_cons_of_ok looked rfl))
  have assigned : (Expr.assign (.member (.name "t") (.number 1)) (.name "t")).eval
      (invokeWithin 1) ⟨0⟩ World.teamed =
        .ok (.team ⟨0⟩) (World.teamed.mapHeap (·.setElement ⟨0⟩ 1 (.team ⟨0⟩))) := by
    rw [Expr.eval_slot, Eval.bind_of_ok looked]
    refine (Eval.bind_of_ok rfl).trans ((Eval.bind_of_ok looked).trans ?_)
    exact (Eval.writeElement_apply ⟨0⟩ (.number 1) (.team ⟨0⟩) World.teamed).trans rfl
  obtain ⟨_, _, _, evaluated, slot⟩ := (written _ _ _).done _ _ assigned
  cases operands.symm.trans evaluated
  refine ⟨⟨moments, record, kept moments record⟩,
    ⟨passed, later, trail, lasting passed later trail⟩, made _ _ _ _ _ declared, ?_,
    refused _ _ _ rfl again⟩
  rcases slot with ⟨id, position, ⟨⟩, found, write⟩ | ⟨_, ⟨⟩, _⟩
  cases found
  exact ⟨_, write⟩

end Avenger
