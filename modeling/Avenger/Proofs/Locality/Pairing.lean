import Avenger.Proofs.Coupling
import Avenger.Proofs.Heap

/-!
# Reachability and heaps that look alike

A place leads to the places that what stands there names: a scope to its parent and to what
its names are bound to, a team to its elements, a function to the scope it was defined in.
Two heaps look alike from some places if the places can be paired off so that paired places
hold the same things up to the pairing.
-/

namespace Avenger

theorem ScopeId.ext_iff {id other : ScopeId} : id = other ↔ id.index = other.index := by
  cases id
  cases other
  simp

theorem TeamId.ext_iff {id other : TeamId} : id = other ↔ id.index = other.index := by
  cases id
  cases other
  simp

theorem Option.Rel.mono {α : Type} {related later : α → α → Prop} {item item' : Option α}
    (old : Option.Rel related item item')
    (implies : ∀ {item item'}, related item item' → later item item') :
    Option.Rel later item item' := by
  cases old with
  | some old => exact .some (implies old)
  | none => exact .none

/-- The places of a heap. -/
inductive Place where
  | scope (id : ScopeId)
  | team (id : TeamId)
  | routine (id : RoutineId)
  deriving DecidableEq

/-- The place that a value names. -/
def Value.place? : Value → Option Place
  | .team id => some (.team id)
  | .routine id => some (.routine id)
  | _ => none

namespace Heap

/-- Whether something stands at a place. -/
def Has (heap : Heap) : Place → Prop
  | .scope id => id.index < heap.scopes.size
  | .team id => id.index < heap.teams.size
  | .routine id => id.index < heap.routines.size

/-- What stands at a place names another place. -/
inductive Link (heap : Heap) : Place → Place → Prop where
  | parent {id parent : ScopeId} {scope : Scope} (found : heap.scope? id = some scope)
      (inside : scope.parent = some parent) : Link heap (.scope id) (.scope parent)
  | bound {id : ScopeId} {scope : Scope} {binding : Binding} {place : Place}
      (found : heap.scope? id = some scope) (member : binding ∈ scope.bindings)
      (names : binding.value.place? = some place) : Link heap (.scope id) place
  | element {id : TeamId} {team : Team} {value : Value} {place : Place}
      (found : heap.team? id = some team) (member : value ∈ team.elements)
      (names : value.place? = some place) : Link heap (.team id) place
  | closure {id : RoutineId} {routine : Routine}
      (found : heap.routine? id = some routine) :
      Link heap (.routine id) (.scope routine.closure)

/-- What is found from a place by following links. -/
abbrev Reaches (heap : Heap) : Place → Place → Prop := Relation.ReflTransGen heap.Link

/-- What is found from one of some places. -/
def Finds (heap : Heap) (roots : List Place) (place : Place) : Prop :=
  ∃ root ∈ roots, heap.Reaches root place

/-- A heap in which every link leads to something, and parents were made before their
children. -/
structure Sound (heap : Heap) : Prop where
  present : ∀ {place other}, heap.Link place other → heap.Has other
  parents : ∀ {id parent : ScopeId} {scope : Scope}, heap.scope? id = some scope →
    scope.parent = some parent → parent.index < id.index

/-- What is found from something in a sound heap is in the heap. -/
theorem Sound.finds {heap : Heap} (sound : heap.Sound) {roots : List Place}
    (has : ∀ root ∈ roots, heap.Has root) {place : Place}
    (found : heap.Finds roots place) : heap.Has place := by
  obtain ⟨root, member, reaches⟩ := found
  cases reaches with
  | refl => exact has _ member
  | tail _ link => exact sound.present link

theorem Finds.next {heap : Heap} {roots : List Place} {place other : Place}
    (found : heap.Finds roots place) (link : heap.Link place other) :
    heap.Finds roots other := by
  obtain ⟨root, member, reaches⟩ := found
  exact ⟨root, member, reaches.tail link⟩

/-- Nothing else is found than places among which one stays when one follows links. -/
theorem Finds.within {heap : Heap} {roots : List Place} {places : Place → Prop}
    (starts : ∀ root ∈ roots, places root)
    (links : ∀ {place other}, places place → heap.Link place other → places other)
    {place : Place} (found : heap.Finds roots place) : places place := by
  obtain ⟨root, member, reaches⟩ := found
  induction reaches with
  | refl => exact starts _ member
  | tail _ link induction => exact links induction link

/-- Every scope and team that stood in a heap and is not among some places is still what it
was. -/
structure Keeps (heap : Heap) (touched : Place → Prop) (later : Heap) : Prop where
  scopes : ∀ {id scope}, heap.scope? id = some scope → ¬ touched (.scope id) →
    later.scope? id = some scope
  teams : ∀ {id team}, heap.team? id = some team → ¬ touched (.team id) →
    later.team? id = some team

/-- What stands at some places stands there in another heap, too. -/
structure SameAt (heap : Heap) (places : Place → Prop) (heap' : Heap) : Prop where
  scopes : ∀ {id}, places (.scope id) → heap'.scope? id = heap.scope? id
  teams : ∀ {id}, places (.team id) → heap'.team? id = heap.team? id
  routines : ∀ {id}, places (.routine id) → heap'.routine? id = heap.routine? id

theorem SameAt.refl (heap : Heap) (places : Place → Prop) : heap.SameAt places heap :=
  ⟨fun _ => rfl, fun _ => rfl, fun _ => rfl⟩

end Heap

/-- Worlds that are the same outside of their heaps. -/
structure World.SameOutside (world world' : World) : Prop where
  output : world.output = world'.output
  readings : world.readings = world'.readings
  clockReadings : world.clockReadings = world'.clockReadings
  chanceReadings : world.chanceReadings = world'.chanceReadings
  retention : world.retention = world'.retention

namespace World.SameOutside

theorem refl (world : World) : world.SameOutside world :=
  ⟨rfl, rfl, rfl, rfl, rfl⟩

variable {world world' : World}

theorem print (same : world.SameOutside world') (line : String) :
    World.SameOutside { world with output := world.output.push line }
      { world' with output := world'.output.push line } :=
  { same with output := congrArg (·.push line) same.output }

theorem clock (same : world.SameOutside world') :
    world.readings.clock world.clockReadings = world'.readings.clock world'.clockReadings ∧
      World.SameOutside { world with clockReadings := world.clockReadings + 1 }
        { world' with clockReadings := world'.clockReadings + 1 } := by
  constructor
  · rw [same.readings, same.clockReadings]
  · exact { same with clockReadings := congrArg (· + 1) same.clockReadings }

theorem chance (same : world.SameOutside world') :
    world.readings.chance world.chanceReadings =
        world'.readings.chance world'.chanceReadings ∧
      World.SameOutside { world with chanceReadings := world.chanceReadings + 1 }
        { world' with chanceReadings := world'.chanceReadings + 1 } := by
  constructor
  · rw [same.readings, same.chanceReadings]
  · exact { same with chanceReadings := congrArg (· + 1) same.chanceReadings }

end World.SameOutside

/-- Positions of two arrays that hold items that are alike, or that are equally far behind
the ends of the arrays. -/
inductive Matched {α : Type} (alike : α → α → Prop) (items items' : Array α)
    (index index' : Nat) : Prop where
  | both {item item' : α} (found : items[index]? = some item)
      (found' : items'[index']? = some item') (related : alike item item') :
      Matched alike items items' index index'
  | beyond (distance : Nat) (behind : index = items.size + distance)
      (behind' : index' = items'.size + distance) : Matched alike items items' index index'

namespace Matched

variable {α : Type} {alike later : α → α → Prop} {items items' : Array α}
  {index index' : Nat}

theorem rel (matched : Matched alike items items' index index') :
    Option.Rel alike items[index]? items'[index']? := by
  cases matched with
  | both found found' related =>
      rw [found, found']
      exact .some related
  | beyond distance behind behind' =>
      rw [Array.getElem?_eq_none (by omega), Array.getElem?_eq_none (by omega)]
      exact .none

theorem inside (matched : Matched alike items items' index index') :
    index < items.size ↔ index' < items'.size := by
  cases matched with
  | both found found' =>
      obtain ⟨bound, -⟩ := Array.getElem?_eq_some_iff.mp found
      obtain ⟨bound', -⟩ := Array.getElem?_eq_some_iff.mp found'
      exact iff_of_true bound bound'
  | beyond distance behind behind' => omega

theorem behind (matched : Matched alike items items' index index') (distance : Nat) :
    index = items.size + distance ↔ index' = items'.size + distance := by
  have inside := matched.inside
  cases matched with
  | both found found' =>
      obtain ⟨bound, -⟩ := Array.getElem?_eq_some_iff.mp found
      omega
  | beyond distance behind behind' => omega

theorem next (matched : Matched alike items items' index index') :
    index = items.size ↔ index' = items'.size :=
  matched.behind 0

theorem mono (matched : Matched alike items items' index index')
    (implies : ∀ {item item'}, alike item item' → later item item') :
    Matched later items items' index index' := by
  cases matched with
  | both found found' related => exact .both found found' (implies related)
  | beyond distance behind behind' => exact .beyond distance behind behind'

theorem push (matched : Matched alike items items' index index') {item item' : α}
    (related : alike item item') :
    Matched alike (items.push item) (items'.push item') index index' := by
  cases matched with
  | both found found' old =>
      obtain ⟨bound, -⟩ := Array.getElem?_eq_some_iff.mp found
      obtain ⟨bound', -⟩ := Array.getElem?_eq_some_iff.mp found'
      refine .both ?_ ?_ old
      · rw [Array.getElem?_push, if_neg (by omega)]
        exact found
      · rw [Array.getElem?_push, if_neg (by omega)]
        exact found'
  | beyond distance behind behind' =>
      cases distance with
      | zero =>
          obtain rfl : index = items.size := behind
          obtain rfl : index' = items'.size := behind'
          exact .both Array.getElem?_push_size Array.getElem?_push_size related
      | succ distance =>
          refine .beyond distance ?_ ?_
          · rw [Array.size_push]
            omega
          · rw [Array.size_push]
            omega

theorem modify (matched : Matched alike items items' index index') {changed changed' : Nat}
    (once : index = changed ↔ index' = changed') {change change' : α → α}
    (related : ∀ {item item'}, alike item item' → alike (change item) (change' item')) :
    Matched alike (items.modify changed change) (items'.modify changed' change') index
      index' := by
  cases matched with
  | both found found' old =>
      by_cases same : index = changed
      · refine .both ?_ ?_ (related old)
        · rw [Array.getElem?_modify, if_pos same.symm, found]
          rfl
        · rw [Array.getElem?_modify, if_pos (once.mp same).symm, found']
          rfl
      · refine .both ?_ ?_ old
        · rw [Array.getElem?_modify, if_neg (Ne.symm same), found]
        · rw [Array.getElem?_modify, if_neg (Ne.symm (mt once.mpr same)), found']
  | beyond distance behind behind' =>
      refine .beyond distance ?_ ?_
      · rw [Array.size_modify]
        exact behind
      · rw [Array.size_modify]
        exact behind'

end Matched

/-- Places of one heap paired with places of another. -/
structure Pairing where
  scopes : ScopeId → ScopeId → Prop
  teams : TeamId → TeamId → Prop
  routines : RoutineId → RoutineId → Prop

/-- Bindings of one name that are alike. -/
structure Binding.Alike (values : Value → Value → Prop) (binding binding' : Binding) :
    Prop where
  value : values binding.value binding'.value
  constant : binding.constant = binding'.constant

namespace Pairing

/-- Values that are the same up to a pairing. -/
abbrev Values (pairing : Pairing) : Value → Value → Prop :=
  Value.Alike pairing.teams pairing.routines True

/-- Scopes that are the same up to a pairing. -/
structure Scopes (pairing : Pairing) (scope scope' : Scope) : Prop where
  bindings : ∀ name, Option.Rel (Binding.Alike pairing.Values) (scope.find? name)
    (scope'.find? name)
  parent : Option.Rel pairing.scopes scope.parent scope'.parent
  limits : scope.limits = scope'.limits
  depth : scope.depth = scope'.depth

/-- Teams that are the same up to a pairing. -/
structure Teams (pairing : Pairing) (team team' : Team) : Prop where
  name : team.name = team'.name
  elements : List.Forall₂ pairing.Values team.elements.toList team'.elements.toList

/-- Functions that are the same up to a pairing. -/
structure Routines (pairing : Pairing) (routine routine' : Routine) : Prop where
  code : routine.SameCode routine'
  closure : pairing.scopes routine.closure routine'.closure

/-- The heaps look alike from paired places: each pair holds the same things up to the
pairing, or is for things that are still to be made. -/
structure Agrees (pairing : Pairing) (heap heap' : Heap) : Prop where
  scopes : ∀ {id id'}, pairing.scopes id id' →
    Matched pairing.Scopes heap.scopes heap'.scopes id.index id'.index
  teams : ∀ {id id'}, pairing.teams id id' →
    Matched pairing.Teams heap.teams heap'.teams id.index id'.index
  routines : ∀ {id id'}, pairing.routines id id' →
    Matched pairing.Routines heap.routines heap'.routines id.index id'.index
  scopes_once : ∀ {id id' other other'}, pairing.scopes id id' →
    pairing.scopes other other' → (id = other ↔ id' = other')
  teams_once : ∀ {id id' other other'}, pairing.teams id id' →
    pairing.teams other other' → (id = other ↔ id' = other')

/-- A pairing that has all pairs of another one. -/
structure Extends (later pairing : Pairing) : Prop where
  scopes : ∀ {id id'}, pairing.scopes id id' → later.scopes id id'
  teams : ∀ {id id'}, pairing.teams id id' → later.teams id id'
  routines : ∀ {id id'}, pairing.routines id id' → later.routines id id'

/-- The worlds look alike from paired places, and are the same outside of their heaps. -/
structure SameView (pairing : Pairing) (world world' : World) : Prop where
  heaps : pairing.Agrees world.heap world'.heap
  outside : world.SameOutside world'

/-- The places of the first heap that are paired. -/
def Left (pairing : Pairing) : Place → Prop
  | .scope id => ∃ id', pairing.scopes id id'
  | .team id => ∃ id', pairing.teams id id'
  | .routine id => ∃ id', pairing.routines id id'

namespace Extends

variable {later pairing : Pairing}

theorem valuesAlike (more : later.Extends pairing) {value value' : Value}
    (related : pairing.Values value value') : later.Values value value' := by
  cases related with
  | team related => exact .team (more.teams related)
  | routine related => exact .routine (more.routines related)
  | null => exact .null
  | number value => exact .number value
  | boolean value => exact .boolean value
  | text value => exact .text value
  | native function installation => exact .native function installation
  | stopped allowed => exact .stopped allowed

theorem scopesAlike (more : later.Extends pairing) {scope scope' : Scope}
    (related : pairing.Scopes scope scope') : later.Scopes scope scope' where
  bindings name := Option.Rel.mono (related.bindings name) fun alike =>
    { alike with value := more.valuesAlike alike.value }
  parent := Option.Rel.mono related.parent more.scopes
  limits := related.limits
  depth := related.depth

theorem teamsAlike (more : later.Extends pairing) {team team' : Team}
    (related : pairing.Teams team team') : later.Teams team team' where
  name := related.name
  elements := related.elements.imp fun _ _ => more.valuesAlike

theorem routinesAlike (more : later.Extends pairing) {routine routine' : Routine}
    (related : pairing.Routines routine routine') : later.Routines routine routine' where
  code := related.code
  closure := more.scopes related.closure

end Extends

/-- A pairing together with the pairs of what is still to be made in two heaps. -/
def grown (pairing : Pairing) (heap heap' : Heap) : Pairing where
  scopes id id' := pairing.scopes id id' ∨ ∃ distance,
    id = ⟨heap.scopes.size + distance⟩ ∧ id' = ⟨heap'.scopes.size + distance⟩
  teams id id' := pairing.teams id id' ∨ ∃ distance,
    id = ⟨heap.teams.size + distance⟩ ∧ id' = ⟨heap'.teams.size + distance⟩
  routines id id' := pairing.routines id id' ∨ ∃ distance,
    id = ⟨heap.routines.size + distance⟩ ∧ id' = ⟨heap'.routines.size + distance⟩

theorem grown_extends (pairing : Pairing) (heap heap' : Heap) :
    (pairing.grown heap heap').Extends pairing :=
  ⟨.inl, .inl, .inl⟩

/-- Heaps that look alike do so too from what is still to be made in them. -/
theorem Agrees.grown {pairing : Pairing} {heap heap' : Heap}
    (agrees : pairing.Agrees heap heap') : (pairing.grown heap heap').Agrees heap heap' := by
  have more := pairing.grown_extends heap heap'
  have scopes : ∀ {id id'}, (pairing.grown heap heap').scopes id id' →
      Matched (pairing.grown heap heap').Scopes heap.scopes heap'.scopes id.index
        id'.index := by
    rintro id id' (old | ⟨distance, rfl, rfl⟩)
    · exact (agrees.scopes old).mono more.scopesAlike
    · exact .beyond distance rfl rfl
  have teams : ∀ {id id'}, (pairing.grown heap heap').teams id id' →
      Matched (pairing.grown heap heap').Teams heap.teams heap'.teams id.index id'.index := by
    rintro id id' (old | ⟨distance, rfl, rfl⟩)
    · exact (agrees.teams old).mono more.teamsAlike
    · exact .beyond distance rfl rfl
  refine ⟨scopes, teams, ?_, ?_, ?_⟩
  · rintro id id' (old | ⟨distance, rfl, rfl⟩)
    · exact (agrees.routines old).mono more.routinesAlike
    · exact .beyond distance rfl rfl
  · rintro id id' other other' (old | ⟨distance, rfl, rfl⟩) (old' | ⟨distance', rfl, rfl⟩)
    · exact agrees.scopes_once old old'
    · simpa [ScopeId.ext_iff] using (scopes (.inl old)).behind distance'
    · simpa [ScopeId.ext_iff, eq_comm] using (scopes (.inl old')).behind distance
    · simp
  · rintro id id' other other' (old | ⟨distance, rfl, rfl⟩) (old' | ⟨distance', rfl, rfl⟩)
    · exact agrees.teams_once old old'
    · simpa [TeamId.ext_iff] using (teams (.inl old)).behind distance'
    · simpa [TeamId.ext_iff, eq_comm] using (teams (.inl old')).behind distance
    · simp

/-- Some places paired with themselves. -/
def self (places : Place → Prop) : Pairing where
  scopes id id' := id = id' ∧ places (.scope id)
  teams id id' := id = id' ∧ places (.team id)
  routines id id' := id = id' ∧ places (.routine id)

section Self

variable {places : Place → Prop}

theorem self_values {value : Value} (within : ∀ place, value.place? = some place →
    places place) : (self places).Values value value := by
  cases value with
  | team id => exact .team ⟨rfl, within _ rfl⟩
  | routine id => exact .routine ⟨rfl, within _ rfl⟩
  | null => exact .null
  | number value => exact .number value
  | boolean value => exact .boolean value
  | text value => exact .text value
  | native function installation => exact .native function installation
  | stopped => exact .stopped trivial

/-- Heaps that have the same at some places look alike from these, if links from them lead to
them. -/
theorem self_agrees {heap heap' : Heap}
    (links : ∀ {place other}, places place → heap.Link place other → places other)
    (present : ∀ {place}, places place → heap.Has place)
    (same : heap.SameAt places heap') : (self places).Agrees heap heap' := by
  constructor
  case scopes =>
      rintro id _ ⟨rfl, within⟩
      obtain ⟨scope, found⟩ : ∃ scope, heap.scope? id = some scope :=
        ⟨_, Array.getElem?_eq_getElem (present within)⟩
      refine .both found ((same.scopes within).trans found) ⟨?_, ?_, rfl, rfl⟩
      · intro name
        cases bound : scope.find? name with
        | none => exact .none
        | some binding =>
            refine .some ⟨self_values ?_, rfl⟩
            intro place names
            exact links within (.bound found (List.mem_of_find?_eq_some bound) names)
      · cases inside : scope.parent with
        | none => exact .none
        | some parent => exact .some ⟨rfl, links within (.parent found inside)⟩
  case teams =>
      rintro id _ ⟨rfl, within⟩
      obtain ⟨team, found⟩ : ∃ team, heap.team? id = some team :=
        ⟨_, Array.getElem?_eq_getElem (present within)⟩
      refine .both found ((same.teams within).trans found) ⟨rfl, ?_⟩
      apply List.forall₂_same.mpr
      intro value member
      apply self_values
      intro place names
      exact links within (.element found (Array.mem_toList_iff.mp member) names)
  case routines =>
      rintro id _ ⟨rfl, within⟩
      obtain ⟨routine, found⟩ : ∃ routine, heap.routine? id = some routine :=
        ⟨_, Array.getElem?_eq_getElem (present within)⟩
      exact .both found ((same.routines within).trans found)
        ⟨⟨rfl, rfl, rfl⟩, rfl, links within (.closure found)⟩
  case scopes_once =>
      rintro id _ other _ ⟨rfl, _⟩ ⟨rfl, _⟩
      exact Iff.rfl
  case teams_once =>
      rintro id _ other _ ⟨rfl, _⟩ ⟨rfl, _⟩
      exact Iff.rfl

end Self

end Pairing

end Avenger
