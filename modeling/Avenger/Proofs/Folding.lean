import Avenger.Proofs.Locality.Lockstep

/-!
# Heaps that differ in extra empty scopes

A folding pairs scopes of one heap with scopes of another one and names scopes of the second
heap that are extra.  An extra scope is hollow: it binds nothing and stands directly inside a
paired scope, so that names mean in it what they mean there.  Teams and functions stand at the
same places in both heaps.
-/

namespace Avenger

/-- A scope that binds nothing, inside another one, with given limits and number of calls. -/
def Scope.hollow (scope : Scope) (outer : ScopeId) : Scope :=
  { bindings := [], parent := some outer, limits := scope.limits, depth := scope.depth }

/-- Changes the bindings of the scope at a place. -/
def Heap.rebind (heap : Heap) (id : ScopeId) (change : List Binding → List Binding) : Heap :=
  heap.modifyScope id fun scope => { scope with bindings := change scope.bindings }

/-- Which scopes of one heap correspond to which of another one. -/
structure Folding where
  /-- Scopes that hold the same. -/
  pairs : ScopeId → ScopeId → Prop
  /-- A scope of the first heap and an extra one inside its partner. -/
  hollow : ScopeId → ScopeId → Prop

namespace Folding

/-- A scope of the second heap in which names mean what they mean in one of the first. -/
def Meets (folding : Folding) (id id' : ScopeId) : Prop :=
  folding.pairs id id' ∨ folding.hollow id id'

/-- Where parents and closures may lead.  Only if `skips` is true may an extra scope come in
between. -/
def Leads (folding : Folding) (skips : Prop) (id id' : ScopeId) : Prop :=
  folding.pairs id id' ∨ skips ∧ folding.hollow id id'

/-- Scopes that hold the same and lead to corresponding ones. -/
structure Scopes (folding : Folding) (skips : Prop) (scope scope' : Scope) : Prop where
  bindings : scope.bindings = scope'.bindings
  parent : Option.Rel (folding.Leads skips) scope.parent scope'.parent
  limits : scope.limits = scope'.limits
  depth : scope.depth = scope'.depth

/-- Functions with the same code that are defined in corresponding scopes. -/
structure Routines (folding : Folding) (skips : Prop) (routine routine' : Routine) : Prop where
  code : routine.SameCode routine'
  closure : folding.Leads skips routine.closure routine'.closure

/-- The heaps are the same up to a renaming of paired scopes and, if `skips` is true, up to
extra scopes on the way to them. -/
structure Agrees (folding : Folding) (skips : Prop) (heap heap' : Heap) : Prop where
  pairs : ∀ {id id'}, folding.pairs id id' → ∃ scope scope', heap.scope? id = some scope ∧
    heap'.scope? id' = some scope' ∧ folding.Scopes skips scope scope'
  hollow : ∀ {id id'}, folding.hollow id id' → ∃ scope outer', heap.scope? id = some scope ∧
    heap'.scope? id' = some (scope.hollow outer') ∧ folding.pairs id outer'
  apart : ∀ {id id' other}, folding.hollow id id' → ¬ folding.pairs other id'
  once : ∀ {id id' other other'}, folding.pairs id id' → folding.pairs other other' →
    (id = other ↔ id' = other')
  teams : heap.teams = heap'.teams
  count : heap.routines.size = heap'.routines.size
  routines : ∀ id, Option.Rel (folding.Routines skips) (heap.routine? id) (heap'.routine? id)

/-- Every scope of the first heap has a partner, and every scope of the second one has a
partner or is extra. -/
structure Covers (folding : Folding) (heap heap' : Heap) : Prop where
  left : ∀ {id : ScopeId}, id.index < heap.scopes.size → ∃ id', folding.pairs id id'
  right : ∀ {id' : ScopeId}, id'.index < heap'.scopes.size → ∃ id, folding.Meets id id'

/-- A folding that has all pairs and all extra scopes of another one. -/
structure Extends (later folding : Folding) : Prop where
  pairs : ∀ {id id'}, folding.pairs id id' → later.pairs id id'
  hollow : ∀ {id id'}, folding.hollow id id' → later.hollow id id'

/-- Every scope that stands in a heap paired with itself. -/
def self (heap : Heap) : Folding where
  pairs id id' := id = id' ∧ id.index < heap.scopes.size
  hollow _ _ := False

/-- One more pair. -/
def pair (folding : Folding) (id id' : ScopeId) : Folding where
  pairs other other' := folding.pairs other other' ∨ other = id ∧ other' = id'
  hollow := folding.hollow

/-- One more extra scope. -/
def extra (folding : Folding) (id id' : ScopeId) : Folding where
  pairs := folding.pairs
  hollow other other' := folding.hollow other other' ∨ other = id ∧ other' = id'

/-- An extra scope that has become the partner of another one. -/
def fill (folding : Folding) (id id' : ScopeId) : Folding where
  pairs other other' := folding.pairs other other' ∨ other = id ∧ other' = id'
  hollow other other' := folding.hollow other other' ∧ other' ≠ id'

/-- The pairs of the scopes that were made before a given one. -/
def below (folding : Folding) (id : ScopeId) : Folding where
  pairs other other' := folding.pairs other other' ∧ other.index < id.index
  hollow _ _ := False

variable {folding later : Folding} {skips : Prop} {heap heap' : Heap} {id id' : ScopeId}

theorem Leads.meets (leads : folding.Leads skips id id') : folding.Meets id id' :=
  leads.imp_right And.right

namespace Extends

theorem refl (folding : Folding) : folding.Extends folding := ⟨fun paired => paired, fun extra => extra⟩

theorem trans {last : Folding} (second : last.Extends later) (first : later.Extends folding) :
    last.Extends folding :=
  ⟨fun paired => second.pairs (first.pairs paired), fun extra => second.hollow (first.hollow extra)⟩

theorem pair (folding : Folding) (id id' : ScopeId) : (folding.pair id id').Extends folding :=
  ⟨.inl, fun extra => extra⟩

theorem extra (folding : Folding) (id id' : ScopeId) : (folding.extra id id').Extends folding :=
  ⟨fun paired => paired, .inl⟩

variable (more : later.Extends folding)
include more

theorem meets (meets : folding.Meets id id') : later.Meets id id' :=
  meets.imp more.pairs more.hollow

theorem leads (leads : folding.Leads skips id id') : later.Leads skips id id' :=
  leads.imp more.pairs (And.imp_right more.hollow)

theorem scopes {scope scope' : Scope} (related : folding.Scopes skips scope scope') :
    later.Scopes skips scope scope' :=
  { related with parent := Option.Rel.mono related.parent more.leads }

theorem routines {routine routine' : Routine} (related : folding.Routines skips routine routine') :
    later.Routines skips routine routine' :=
  ⟨related.code, more.leads related.closure⟩

end Extends

theorem self_agrees (ordered : heap.Ordered) : (self heap).Agrees skips heap heap where
  pairs := by
    rintro id _ ⟨rfl, bound⟩
    obtain ⟨scope, found⟩ := Option.isSome_iff_exists.mp (Heap.scope?_isSome.mpr bound)
    refine ⟨scope, scope, found, found, rfl, ?_, rfl, rfl⟩
    cases inside : scope.parent with
    | none => exact .none
    | some parent =>
        exact .some (.inl ⟨rfl, Nat.lt_trans (ordered.parents found inside) bound⟩)
  hollow := False.elim
  apart := False.elim
  once := by
    rintro id _ other _ ⟨rfl, -⟩ ⟨rfl, -⟩
    rfl
  teams := rfl
  count := rfl
  routines id := by
    cases found : heap.routine? id with
    | none => exact .none
    | some routine => exact .some ⟨⟨rfl, rfl, rfl⟩, .inl ⟨rfl, ordered.closures found⟩⟩

theorem self_covers (heap : Heap) : (self heap).Covers heap heap where
  left bound := ⟨_, rfl, bound⟩
  right bound := ⟨_, .inl ⟨rfl, bound⟩⟩

namespace Agrees

variable (agrees : folding.Agrees skips heap heap')
include agrees

/-! ### Reading -/

/-- Corresponding scopes have the same limits and the same number of active calls. -/
theorem settings (meets : folding.Meets id id') : ∃ scope scope', heap.scope? id = some scope ∧
    heap'.scope? id' = some scope' ∧ scope.limits = scope'.limits ∧ scope.depth = scope'.depth := by
  rcases meets with paired | extra
  · obtain ⟨scope, scope', found, found', related⟩ := agrees.pairs paired
    exact ⟨scope, scope', found, found', related.limits, related.depth⟩
  · obtain ⟨scope, outer', found, found', -⟩ := agrees.hollow extra
    exact ⟨scope, _, found, found', rfl, rfl⟩

theorem limits (meets : folding.Meets id id') : heap.limits id = heap'.limits id' := by
  obtain ⟨scope, scope', found, found', limits, -⟩ := agrees.settings meets
  rw [Heap.limits_eq found, Heap.limits_eq found', limits]

theorem depth (meets : folding.Meets id id') : heap.depth id = heap'.depth id' := by
  obtain ⟨scope, scope', found, found', -, depth⟩ := agrees.settings meets
  rw [Heap.depth_eq found, Heap.depth_eq found', depth]

theorem bound (meets : folding.Meets id id') : id.index < heap.scopes.size := by
  obtain ⟨scope, -, found, -⟩ := agrees.settings meets
  exact Heap.lt_of_scope? found

theorem bound' (meets : folding.Meets id id') : id'.index < heap'.scopes.size := by
  obtain ⟨-, scope', -, found', -⟩ := agrees.settings meets
  exact Heap.lt_of_scope? found'

theorem binds (paired : folding.pairs id id') (name : String) :
    heap.binds id name = heap'.binds id' name := by
  obtain ⟨scope, scope', found, found', related⟩ := agrees.pairs paired
  simp only [Heap.binds, found, found', Option.bind_some, Scope.find?, related.bindings]

theorem team? (id : TeamId) : heap.team? id = heap'.team? id := by
  rw [Heap.team?, agrees.teams, Heap.team?]

/-- A name has corresponding owners, with the same binding. -/
theorem resolve? (ordered : heap.Ordered) (ordered' : heap'.Ordered) (name : String)
    {id id' : ScopeId} (meets : folding.Meets id id') :
    Option.Rel (fun found found' => folding.pairs found.1 found'.1 ∧ found.2 = found'.2)
      (heap.resolve? name id) (heap'.resolve? name id') := by
  rcases meets with paired | extra
  · obtain ⟨scope, scope', found, found', related⟩ := agrees.pairs paired
    rw [Heap.resolve?.eq_def heap, Heap.resolve?.eq_def heap', found, found']
    dsimp only
    have parents := related.parent
    rw [Scope.find?, Scope.find?, related.bindings]
    cases scope'.bindings.find? (·.name == name) with
    | some binding => exact .some ⟨paired, rfl⟩
    | none =>
        dsimp only
        generalize inside : scope.parent = parent at parents ⊢
        generalize inside' : scope'.parent = parent' at parents ⊢
        cases parents with
        | none => exact .none
        | some outer =>
            have earlier := ordered.parents found inside
            have earlier' := ordered'.parents found' inside'
            dsimp only
            rw [if_pos earlier, if_pos earlier']
            exact resolve? ordered ordered' name outer.meets
  · obtain ⟨scope, outer', -, found', paired⟩ := agrees.hollow extra
    have earlier' := ordered'.parents found' (rfl : (scope.hollow outer').parent = _)
    rw [Heap.resolve?.eq_def heap', found']
    dsimp only [Scope.hollow, Scope.find?, List.find?_nil]
    rw [if_pos earlier']
    exact resolve? ordered ordered' name (.inl paired)
termination_by id'.index

/-! ### Changing -/

/-- Two scopes that are paired get other bindings. -/
theorem rebind (paired : folding.pairs id id') (change : List Binding → List Binding) :
    folding.Agrees skips (heap.rebind id change) (heap'.rebind id' change) where
  pairs := by
    intro other other' otherPaired
    obtain ⟨scope, scope', found, found', related⟩ := agrees.pairs otherPaired
    have once := agrees.once paired otherPaired
    rw [Heap.rebind, Heap.rebind, Heap.scope?_modifyScope, Heap.scope?_modifyScope, found, found']
    by_cases same : id = other
    · rw [if_pos same, if_pos (once.mp same)]
      exact ⟨_, _, rfl, rfl, { related with bindings := congrArg change related.bindings }⟩
    · rw [if_neg same, if_neg (mt once.mpr same)]
      exact ⟨_, _, rfl, rfl, related⟩
  hollow := by
    intro other other' extra
    obtain ⟨scope, outer', found, found', inside⟩ := agrees.hollow extra
    have elsewhere : id' ≠ other' := by
      rintro rfl
      exact agrees.apart extra paired
    rw [Heap.rebind, Heap.rebind, Heap.scope?_modifyScope, Heap.scope?_modifyScope, found, found',
      if_neg elsewhere]
    split
    · exact ⟨_, outer', rfl, rfl, inside⟩
    · exact ⟨_, outer', rfl, rfl, inside⟩
  apart := agrees.apart
  once := agrees.once
  teams := agrees.teams
  count := agrees.count
  routines := agrees.routines

theorem modifyTeam (team : TeamId) (change : Team → Team) :
    folding.Agrees skips (heap.modifyTeam team change) (heap'.modifyTeam team change) :=
  { agrees with
    teams := by
      rw [Heap.modifyTeam, Heap.modifyTeam, agrees.teams] }

theorem addTeam (team : Team) :
    folding.Agrees skips (heap.addTeam team) (heap'.addTeam team) :=
  { agrees with
    teams := by
      rw [Heap.addTeam, Heap.addTeam, agrees.teams] }

theorem addRoutine {routine routine' : Routine} (related : folding.Routines skips routine routine') :
    folding.Agrees skips (heap.addRoutine routine) (heap'.addRoutine routine') :=
  { agrees with
    count := by
      rw [Heap.addRoutine_size, Heap.addRoutine_size, agrees.count]
    routines := by
      intro id
      have same : heap.nextRoutine = heap'.nextRoutine := by
        rw [Heap.nextRoutine, Heap.nextRoutine, agrees.count]
      rw [Heap.routine?_addRoutine, Heap.routine?_addRoutine, same]
      split
      · exact .some related
      · exact agrees.routines id }

/-- Two new scopes that hold the same make a new pair. -/
theorem addScope {scope scope' : Scope} (related : folding.Scopes skips scope scope') :
    (folding.pair heap.nextScope heap'.nextScope).Agrees skips (heap.addScope scope)
      (heap'.addScope scope') where
  pairs := by
    have more := Extends.pair folding heap.nextScope heap'.nextScope
    rintro id id' (paired | ⟨rfl, rfl⟩)
    · obtain ⟨old, old', found, found', alike⟩ := agrees.pairs paired
      rw [Heap.scope?_addScope, Heap.scope?_addScope,
        if_neg (Heap.ne_nextScope (Heap.lt_of_scope? found)),
        if_neg (Heap.ne_nextScope (Heap.lt_of_scope? found'))]
      exact ⟨old, old', found, found', more.scopes alike⟩
    · rw [Heap.scope?_addScope, Heap.scope?_addScope, if_pos rfl, if_pos rfl]
      exact ⟨scope, scope', rfl, rfl, more.scopes related⟩
  hollow := by
    intro id id' extra
    obtain ⟨old, outer', found, found', inside⟩ := agrees.hollow extra
    rw [Heap.scope?_addScope, Heap.scope?_addScope,
      if_neg (Heap.ne_nextScope (Heap.lt_of_scope? found)),
      if_neg (Heap.ne_nextScope (Heap.lt_of_scope? found'))]
    exact ⟨old, outer', found, found', .inl inside⟩
  apart := by
    rintro id id' other extra (paired | ⟨-, rfl⟩)
    · exact agrees.apart extra paired
    · exact Nat.lt_irrefl _ (agrees.bound' (.inr extra))
  once := by
    rintro id id' other other' (paired | ⟨rfl, rfl⟩) (paired' | ⟨rfl, rfl⟩)
    · exact agrees.once paired paired'
    · exact iff_of_false (Heap.ne_nextScope (agrees.bound (.inl paired)))
        (Heap.ne_nextScope (agrees.bound' (.inl paired)))
    · exact iff_of_false (Heap.ne_nextScope (agrees.bound (.inl paired'))).symm
        (Heap.ne_nextScope (agrees.bound' (.inl paired'))).symm
    · exact iff_of_true rfl rfl
  teams := agrees.teams
  count := agrees.count
  routines id := Option.Rel.mono (agrees.routines id) (Extends.pair folding _ _).routines

/-- A new empty scope of the second heap inside a paired one is extra. -/
theorem addHollow (paired : folding.pairs id id') :
    (folding.extra id heap'.nextScope).Agrees skips heap (heap'.addScope (heap'.childOf id')) where
  pairs := by
    intro other other' otherPaired
    obtain ⟨scope, scope', found, found', related⟩ := agrees.pairs otherPaired
    rw [Heap.scope?_addScope, if_neg (Heap.ne_nextScope (Heap.lt_of_scope? found'))]
    exact ⟨scope, scope', found, found', (Extends.extra folding _ _).scopes related⟩
  hollow := by
    rintro other other' (extra | ⟨rfl, rfl⟩)
    · obtain ⟨scope, outer', found, found', inside⟩ := agrees.hollow extra
      rw [Heap.scope?_addScope, if_neg (Heap.ne_nextScope (Heap.lt_of_scope? found'))]
      exact ⟨scope, outer', found, found', inside⟩
    · obtain ⟨scope, scope', found, found', related⟩ := agrees.pairs paired
      rw [Heap.scope?_addScope, if_pos rfl]
      have made : heap'.childOf id' = scope.hollow id' := by
        rw [Heap.childOf, Scope.hollow, Heap.limits_eq found', Heap.depth_eq found',
          related.limits, related.depth]
      exact ⟨scope, id', found, by rw [made], paired⟩
  apart := by
    rintro other other' another (extra | ⟨rfl, rfl⟩) otherPaired
    · exact agrees.apart extra otherPaired
    · exact Nat.lt_irrefl _ (agrees.bound' (.inl otherPaired))
  once := agrees.once
  teams := agrees.teams
  count := agrees.count
  routines id := Option.Rel.mono (agrees.routines id) (Extends.extra folding _ _).routines

/-- To clear an extra scope changes nothing. -/
theorem clear_hollow (extra : folding.hollow id id') : heap'.clear id' = heap' := by
  obtain ⟨scope, outer', -, found', -⟩ := agrees.hollow extra
  obtain ⟨scopes, teams, routines⟩ := heap'
  suffices same : scopes.modify id'.index (·.clear) = scopes by
    rw [Heap.clear, Heap.modifyScope, same]
  apply Array.ext_getElem?
  intro index
  rw [Array.getElem?_modify]
  split
  · next here =>
      rw [← here, show scopes[id'.index]? = some (scope.hollow outer') from found']
      rfl
  · rfl

end Agrees

/-! ### Where extra scopes are not skipped -/

/-- When nothing leads to an extra scope, it can become the partner of a new empty scope. -/
theorem Agrees.fill (agrees : folding.Agrees False heap heap') {id' : ScopeId}
    (extra : folding.hollow id id') :
    (folding.fill heap.nextScope id').Agrees False (heap.addScope (heap.childOf id)) heap' := by
  have leads {other other' : ScopeId} (leads : folding.Leads False other other') :
      (folding.fill heap.nextScope id').Leads False other other' :=
    leads.elim (fun paired => .inl (.inl paired)) fun skipped => skipped.1.elim
  have old {other other' : ScopeId} (paired : folding.pairs other other') :
      other ≠ heap.nextScope ∧ other' ≠ id' := by
    refine ⟨Heap.ne_nextScope (agrees.bound (.inl paired)), ?_⟩
    rintro rfl
    exact agrees.apart extra paired
  constructor
  case pairs =>
      rintro other other' (paired | ⟨rfl, rfl⟩)
      · obtain ⟨scope, scope', found, found', related⟩ := agrees.pairs paired
        rw [Heap.scope?_addScope, if_neg (old paired).1]
        exact ⟨scope, scope', found, found',
          { related with parent := Option.Rel.mono related.parent leads }⟩
      · obtain ⟨scope, outer', found, found', inside⟩ := agrees.hollow extra
        have made : (folding.fill heap.nextScope other').Scopes False (heap.childOf id)
            (scope.hollow outer') :=
          { bindings := rfl
            parent := .some (.inl (.inl inside))
            limits := (Heap.limits_eq found : heap.limits id = scope.limits)
            depth := (Heap.depth_eq found : heap.depth id = scope.depth) }
        rw [Heap.scope?_addScope, if_pos rfl]
        exact ⟨_, _, rfl, found', made⟩
  case hollow =>
      rintro other other' ⟨hollow, -⟩
      obtain ⟨scope, outer', found, found', inside⟩ := agrees.hollow hollow
      rw [Heap.scope?_addScope, if_neg (Heap.ne_nextScope (Heap.lt_of_scope? found))]
      exact ⟨scope, outer', found, found', .inl inside⟩
  case apart =>
      rintro other other' another ⟨hollow, elsewhere⟩ (paired | ⟨-, here⟩)
      · exact agrees.apart hollow paired
      · exact elsewhere here
  case once =>
      rintro other other' another another' (paired | ⟨rfl, rfl⟩) (paired' | ⟨rfl, rfl⟩)
      · exact agrees.once paired paired'
      · exact iff_of_false (old paired).1 (old paired).2
      · exact iff_of_false (old paired').1.symm (old paired').2.symm
      · exact iff_of_true rfl rfl
  case teams => exact agrees.teams
  case count => exact agrees.count
  case routines =>
      intro routine
      exact Option.Rel.mono (agrees.routines routine) fun related =>
        ⟨related.code, leads related.closure⟩

/-- When no function is defined in a scope or in a later one, the pairs of earlier scopes are
enough, and it does not matter what has become of the scope. -/
theorem Agrees.below (agrees : folding.Agrees False heap heap') (ordered : heap.Ordered)
    {id' : ScopeId} (paired : folding.pairs id id')
    (closures : ∀ {routine : RoutineId} {found : Routine},
      heap.routine? routine = some found → found.closure.index < id.index)
    {last last' : Heap} (scopes : ∀ other, other ≠ id → last.scope? other = heap.scope? other)
    (scopes' : ∀ other, other ≠ id' → last'.scope? other = heap'.scope? other)
    (teams : last.teams = heap.teams) (teams' : last'.teams = heap'.teams)
    (routines : last.routines = heap.routines) (routines' : last'.routines = heap'.routines) :
    (folding.below id).Agrees False last last' where
  pairs := by
    rintro other other' ⟨otherPaired, earlier⟩
    obtain ⟨scope, scope', found, found', related⟩ := agrees.pairs otherPaired
    have elsewhere : other ≠ id := by
      rintro rfl
      exact Nat.lt_irrefl _ earlier
    have elsewhere' : other' ≠ id' := mt (agrees.once otherPaired paired).mpr elsewhere
    rw [scopes other elsewhere, scopes' other' elsewhere']
    refine ⟨scope, scope', found, found', { related with parent := ?_ }⟩
    have parents := related.parent
    generalize inside : scope.parent = parent at parents ⊢
    generalize scope'.parent = parent' at parents ⊢
    cases parents with
    | none => exact .none
    | some leads =>
        have before := ordered.parents found inside
        exact .some (.inl ⟨leads.resolve_right And.left, Nat.lt_trans before earlier⟩)
  hollow := False.elim
  apart := False.elim
  once := fun first second => agrees.once first.1 second.1
  teams := by rw [teams, agrees.teams, teams']
  count := by rw [routines, agrees.count, routines']
  routines := by
    intro routine
    have related := agrees.routines routine
    have same : last.routine? routine = heap.routine? routine := by
      rw [Heap.routine?, routines, Heap.routine?]
    have same' : last'.routine? routine = heap'.routine? routine := by
      rw [Heap.routine?, routines', Heap.routine?]
    rw [same, same']
    generalize found : heap.routine? routine = routineFound at related ⊢
    generalize heap'.routine? routine = routineFound' at related ⊢
    cases related with
    | none => exact .none
    | some related =>
        exact .some ⟨related.code, .inl ⟨related.closure.resolve_right And.left, closures found⟩⟩

namespace Covers

variable (covers : folding.Covers heap heap')
include covers

theorem addScope (scope scope' : Scope) :
    (folding.pair heap.nextScope heap'.nextScope).Covers (heap.addScope scope)
      (heap'.addScope scope') where
  left := by
    intro id bound
    by_cases new : id = heap.nextScope
    · exact ⟨_, .inr ⟨new, rfl⟩⟩
    · obtain ⟨id', paired⟩ := covers.left (Heap.lt_of_addScope bound new)
      exact ⟨id', .inl paired⟩
  right := by
    intro id' bound
    by_cases new : id' = heap'.nextScope
    · exact ⟨_, .inl (.inr ⟨rfl, new⟩)⟩
    · obtain ⟨id, meets⟩ := covers.right (Heap.lt_of_addScope bound new)
      exact ⟨id, (Extends.pair folding _ _).meets meets⟩

theorem addHollow (id : ScopeId) (scope' : Scope) :
    (folding.extra id heap'.nextScope).Covers heap (heap'.addScope scope') where
  left := covers.left
  right := by
    intro id' bound
    by_cases new : id' = heap'.nextScope
    · exact ⟨id, .inr (.inr ⟨rfl, new⟩)⟩
    · obtain ⟨other, meets⟩ := covers.right (Heap.lt_of_addScope bound new)
      exact ⟨other, (Extends.extra folding _ _).meets meets⟩

/-- An extra scope that becomes the partner of a new one is still covered. -/
theorem fill (id' : ScopeId) (scope : Scope) :
    (folding.fill heap.nextScope id').Covers (heap.addScope scope) heap' where
  left := by
    intro id bound
    by_cases new : id = heap.nextScope
    · exact ⟨id', .inr ⟨new, rfl⟩⟩
    · obtain ⟨other, paired⟩ := covers.left (Heap.lt_of_addScope bound new)
      exact ⟨other, .inl paired⟩
  right := by
    intro other bound
    by_cases filled : other = id'
    · exact ⟨_, .inl (.inr ⟨rfl, filled⟩)⟩
    · obtain ⟨id, paired | extra⟩ := covers.right bound
      · exact ⟨id, .inl (.inl paired)⟩
      · exact ⟨id, .inr ⟨extra, filled⟩⟩

/-- Only the number of scopes matters. -/
theorem of_sizes {last last' : Heap} (size : last.scopes.size = heap.scopes.size)
    (size' : last'.scopes.size = heap'.scopes.size) : folding.Covers last last' where
  left bound := covers.left (by rwa [← size])
  right bound := covers.right (by rwa [← size'])

end Covers

end Folding

end Avenger
