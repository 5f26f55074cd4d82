import Avenger.Fault
import Avenger.Limits

/-!
# Scopes, teams and functions

The heap keeps everything that values share.  Places are never given up, so that the place
of a scope, a team or a function stays good once it is known.  A scope was made after its
parent; going from scope to parent therefore ends, and the scopes met on the way form its
chain.  The first scope of the chain that binds a name is the owner of the name: it decides
what the name reads as and where an assignment to it goes.
-/

namespace Avenger

/-- What a scope knows of a name. -/
structure Binding where
  name : String
  value : Value
  constant : Bool

/-- The names of one block, call or session. -/
structure Scope where
  bindings : List Binding
  parent : Option ScopeId
  limits : Limits
  /-- How many function calls are active in this scope. -/
  depth : Nat

/-- The storage of a `team`. -/
structure Team where
  name : String
  elements : Array Value

/-- A function of a program, with the scope that it was defined in. -/
structure Routine where
  name : String
  parameters : List String
  body : List Stmt
  closure : ScopeId

/-- Everything that values share. -/
structure Heap where
  scopes : Array Scope
  teams : Array Team
  routines : Array Routine

namespace Scope

/-- The binding of a name. -/
def find? (scope : Scope) (name : String) : Option Binding :=
  scope.bindings.find? (·.name == name)

/-- Adds a binding. -/
def bind (scope : Scope) (binding : Binding) : Scope :=
  { scope with bindings := binding :: scope.bindings }

/-- Gives a bound name another value. -/
def write (scope : Scope) (name : String) (value : Value) : Scope :=
  { scope with
    bindings := scope.bindings.map fun binding =>
      if binding.name == name then { binding with value := value } else binding }

/-- Forgets all bindings. -/
def clear (scope : Scope) : Scope := { scope with bindings := [] }

end Scope

namespace Heap

/-- The heap without anything in it. -/
def empty : Heap := { scopes := #[], teams := #[], routines := #[] }

/-- The scope at a place. -/
def scope? (heap : Heap) (id : ScopeId) : Option Scope := heap.scopes[id.index]?

/-- The team at a place. -/
def team? (heap : Heap) (id : TeamId) : Option Team := heap.teams[id.index]?

/-- The function at a place. -/
def routine? (heap : Heap) (id : RoutineId) : Option Routine := heap.routines[id.index]?

/-- The limits of a scope. -/
def limits (heap : Heap) (id : ScopeId) : Limits :=
  ((heap.scope? id).map (·.limits)).getD .standard

/-- How many calls are active in a scope. -/
def depth (heap : Heap) (id : ScopeId) : Nat := ((heap.scope? id).map (·.depth)).getD 0

/-- The place of the next scope. -/
def nextScope (heap : Heap) : ScopeId := ⟨heap.scopes.size⟩

/-- The place of the next team. -/
def nextTeam (heap : Heap) : TeamId := ⟨heap.teams.size⟩

/-- The place of the next function. -/
def nextRoutine (heap : Heap) : RoutineId := ⟨heap.routines.size⟩

def addScope (heap : Heap) (scope : Scope) : Heap :=
  { heap with scopes := heap.scopes.push scope }

def addTeam (heap : Heap) (team : Team) : Heap :=
  { heap with teams := heap.teams.push team }

def addRoutine (heap : Heap) (routine : Routine) : Heap :=
  { heap with routines := heap.routines.push routine }

/-- Changes the scope at a place. -/
def modifyScope (heap : Heap) (id : ScopeId) (change : Scope → Scope) : Heap :=
  { heap with scopes := heap.scopes.modify id.index change }

/-- Changes the team at a place. -/
def modifyTeam (heap : Heap) (id : TeamId) (change : Team → Team) : Heap :=
  { heap with teams := heap.teams.modify id.index change }

/-- A scope with no parent. -/
def root (limits : Limits) : Scope := { bindings := [], parent := none, limits, depth := 0 }

/-- A scope inside another one, with its limits and as many active calls. -/
def childOf (heap : Heap) (parent : ScopeId) : Scope :=
  { bindings := [], parent := some parent, limits := heap.limits parent,
    depth := heap.depth parent }

/-- A scope for one call of a function defined in `closure`, where `depth` calls are active
in the scope of the caller.  It has the limits of the closure. -/
def callOf (heap : Heap) (closure : ScopeId) (depth : Nat) : Scope :=
  { bindings := [], parent := some closure, limits := heap.limits closure,
    depth := depth + 1 }

/-- The first scope from the given place outward that has a binding of the name, and that
binding. -/
def resolve? (heap : Heap) (name : String) (id : ScopeId) : Option (ScopeId × Binding) :=
  match heap.scope? id with
  | none => none
  | some scope =>
      match scope.find? name with
      | some binding => some (id, binding)
      | none =>
          match scope.parent with
          | none => none
          | some parent =>
              if parent.index < id.index then heap.resolve? name parent else none
termination_by id.index

/-- The owner of a name: the nearest scope that binds it. -/
def owner? (heap : Heap) (id : ScopeId) (name : String) : Option ScopeId :=
  (heap.resolve? name id).map (·.1)

/-- What a name reads as. -/
def lookup (heap : Heap) (id : ScopeId) (name : String) : Except Fault Value :=
  match heap.resolve? name id with
  | some (_, binding) => .ok binding.value
  | none => .error (.unresolved name)

/-- Whether a scope itself binds a name. -/
def binds (heap : Heap) (id : ScopeId) (name : String) : Bool :=
  ((heap.scope? id).bind (·.find? name)).isSome

/-- Adds a binding to a scope. -/
def bind (heap : Heap) (id : ScopeId) (binding : Binding) : Heap :=
  heap.modifyScope id (·.bind binding)

/-- Gives a name that a scope binds another value. -/
def write (heap : Heap) (id : ScopeId) (name : String) (value : Value) : Heap :=
  heap.modifyScope id (·.write name value)

/-- Declares a name in a scope that does not bind it yet. -/
def declare (heap : Heap) (id : ScopeId) (binding : Binding) : Except Fault Heap :=
  if heap.binds id binding.name then .error (.duplicate binding.name)
  else .ok (heap.bind id binding)

/-- The scope that an assignment to a name writes to: its owner, unless the name is a
constant there. -/
def assignable (heap : Heap) (id : ScopeId) (name : String) : Except Fault ScopeId :=
  match heap.resolve? name id with
  | none => .error (.unresolved name)
  | some (owner, binding) =>
      if binding.constant then .error (.constantReassigned name) else .ok owner

/-- Assigns to a name in its owner. -/
def assign (heap : Heap) (id : ScopeId) (name : String) (value : Value) :
    Except Fault Heap := do
  return heap.write (← heap.assignable id name) name value

/-- Forgets the bindings of a scope. -/
def clear (heap : Heap) (id : ScopeId) : Heap := heap.modifyScope id (·.clear)

/-- Replaces an element of a team. -/
def setElement (heap : Heap) (id : TeamId) (position : Nat) (value : Value) : Heap :=
  heap.modifyTeam id fun team =>
    { team with elements := team.elements.setIfInBounds position value }

/-- Fails if a loop in a scope may not begin its turn of the given number, counted from
one. -/
def guardTurn (heap : Heap) (id : ScopeId) (turn : Nat) : Except Fault Unit :=
  let limit := (heap.limits id).iterations
  if limit < turn then .error (.tooManyTurns limit) else .ok ()

/-- The greatest call depth that any scope allows. -/
def greatestCallDepth (heap : Heap) : Nat :=
  heap.scopes.foldl (fun greatest scope => max greatest scope.limits.callDepth) 0

end Heap

end Avenger
