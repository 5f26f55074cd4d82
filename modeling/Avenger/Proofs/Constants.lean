import Avenger.Proofs.Constants.Invariant
import Avenger.Proofs.Outline
import Avenger.Proofs.Guards

/-!
# Constants never change

At every moment of a session the constants of the scopes that can still be reached are those
that were declared there, with the values that they were declared with.  All ways to rebind
a name are refused while it is a constant of its nearest owner.
-/

namespace Avenger

/-! ### Sessions -/

namespace Moment

/-- What a run can still come to: what is found from the open scopes and, since a value at
hand may name any of them, from all teams and functions. -/
def Reaches (now : Moment) (place : Place) : Prop :=
  ∃ root, (∀ id, root = .scope id → id ∈ now.opened) ∧ now.world.heap.Reaches root place

/-- Every constant of a scope that can be reached was declared there with the value that it
has, and every constant that was declared there is bound there as it was declared. -/
structure ConstantsKept (now : Moment) : Prop where
  origin : ∀ {id name binding}, now.Reaches (.scope id) →
    now.world.heap.binding? id name = some binding → binding.constant = true →
    (id, binding) ∈ now.declared
  lasting : ∀ {id binding}, (id, binding) ∈ now.declared → binding.constant = true →
    now.Reaches (.scope id) → now.world.heap.binding? id binding.name = some binding

variable {now : Moment}

theorem Reaches.anchored {id : ScopeId} (reached : now.Reaches (.scope id)) :
    now.Anchored id := by
  obtain ⟨root, opened, reaches⟩ := reached
  have anchored : ∀ {place}, now.world.heap.Reaches root place →
      ∀ id, place = .scope id → now.Anchored id := by
    intro place reaches
    induction reaches with
    | refl =>
        intro id same
        exact .opened (opened id same)
    | tail _ link induction =>
        intro id same
        cases link with
        | @parent inner _ _ found inside =>
            cases same
            refine (induction inner rfl).parent ?_
            rw [Heap.parent?, found]
            exact inside
        | @bound _ _ binding _ _ _ names =>
            subst same
            cases value : binding.value <;> rw [value] at names <;> cases names
        | @element _ _ value _ _ _ names =>
            subst same
            cases value <;> cases names
        | closure found =>
            cases same
            exact .closure found
  exact anchored reaches id rfl

theorem Invariant.constantsKept (invariant : now.Invariant) : now.ConstantsKept where
  origin reached := invariant.origin reached.anchored
  lasting member constant reached := invariant.lasting member constant reached.anchored

/-- Declaring names in turn that are all free. -/
theorem Invariant.declareConstants (invariant : now.Invariant)
    (constants : List (String × Value)) (distinct : (constants.map Prod.fst).Nodup)
    (free : ∀ constant ∈ constants, now.world.heap.binds now.scope constant.1 = false) :
    ({ now with
      world := Eval.last (Eval.declareConstants now.scope constants now.world)
      declared := (constants.map fun constant =>
        (now.scope, ⟨constant.1, constant.2, true⟩)).reverse ++ now.declared } :
      Moment).Invariant := by
  induction constants generalizing now with
  | nil => exact invariant
  | cons constant rest induction =>
      obtain ⟨name, value⟩ := constant
      obtain ⟨unused, distinct⟩ := List.nodup_cons.mp distinct
      have unbound : now.world.heap.binds now.scope name = false := free _ (.head _)
      have declared := Eval.declare_apply now.scope name value true now.world
      rw [if_neg (by simp [unbound])] at declared
      have present := invariant.anchored_lt (now.anchored_scope)
      have after := induction (invariant.declare ⟨name, value, true⟩ unbound) distinct (by
        intro constant member
        have apart : name ≠ constant.1 := by
          rintro rfl
          exact unused (List.mem_map.mpr ⟨constant, member, rfl⟩)
        simp only [World.mapHeap_heap]
        rw [Heap.binds_eq, Heap.binding?_bind present, if_neg fun both => apart both.2,
          ← Heap.binds_eq]
        exact free constant (.tail _ member))
      rw [Eval.declareConstants, Eval.bind_of_ok declared]
      simpa using after

end Moment

namespace Session

/-- The moment of a session between two sources, when some declarations have been made. -/
def moment (session : Session) (declared : List (ScopeId × Binding)) : Moment :=
  { world := session.world, scope := session.scope, outer := [], declared }

/-- The moments of a session that runs sources in turn: those before, between and after the
sources, and those that the sources pass which can be read. -/
inductive Record : Session → List (ScopeId × Binding) → List String → List Moment → Prop where
  | done (session : Session) (declared : List (ScopeId × Binding)) :
      Record session declared [] [session.moment declared]
  | unread {session : Session} {declared : List (ScopeId × Binding)} {source : String}
      {sources : List String} {moments : List Moment} {error : SyntaxError}
      (unread : Program.ofSource source = .error error)
      (rest : Record (session.after source) declared sources moments) :
      Record session declared (source :: sources) (session.moment declared :: moments)
  | ran {session : Session} {declared : List (ScopeId × Binding)} {source : String}
      {sources : List String} {passed moments : List Moment} {program : Program}
      {last : Moment} (read : Program.ofSource source = .ok program)
      (trail : Eval.Trail (program.eval session.scope)
        { session.moment declared with world := { session.world with output := #[] } }
        passed last)
      (rest : Record (session.after source) last.declared sources moments) :
      Record session declared (source :: sources)
        (session.moment declared :: passed ++ moments)

/-- The session after sources. -/
def afterAll (session : Session) (sources : List String) : Session :=
  sources.foldl after session

/-- The declarations that a session starts with, the latest first. -/
def installed : List (ScopeId × Binding) :=
  ((Eval.globals 0).map fun constant =>
    (⟨0⟩, ⟨constant.1, constant.2, true⟩)).reverse

variable {session : Session} {source : String}

theorem after_of_unread {error : SyntaxError} (unread : Program.ofSource source = .error error) :
    session.after source = session := by
  simp only [after, run, stepSource, unread]

theorem after_of_read {program : Program} (read : Program.ofSource source = .ok program) :
    (session.after source).world =
      Eval.last (program.eval session.scope { session.world with output := #[] }) := by
  simp only [after, run, stepSource, read, Eval.step]
  rcases program.eval session.scope { session.world with output := #[] } with
    ⟨result, later⟩ | ⟨⟨error⟩ | _, later⟩ <;> rfl

/-- The run of a source comes to the moment of the session after it. -/
theorem eq_moment {program : Program} {declared : List (ScopeId × Binding)}
    {passed : List Moment} {last : Moment} (read : Program.ofSource source = .ok program)
    (trail : Eval.Trail (program.eval session.scope)
      { session.moment declared with world := { session.world with output := #[] } }
      passed last) : last = (session.after source).moment last.declared := by
  obtain ⟨scope, outer⟩ := trail.opened_eq
  have world := trail.world_eq.trans (after_of_read read).symm
  cases last
  cases scope
  cases outer
  cases world
  rfl

/-- Every session has a record. -/
theorem exists_record (session : Session) (declared : List (ScopeId × Binding))
    (sources : List String) : ∃ moments, Record session declared sources moments := by
  induction sources generalizing session declared with
  | nil => exact ⟨_, .done session declared⟩
  | cons source sources induction =>
      cases read : Program.ofSource source with
      | error error =>
          obtain ⟨moments, rest⟩ := induction (session.after source) declared
          exact ⟨_, .unread read rest⟩
      | ok program =>
          obtain ⟨passed, last, trail⟩ := Eval.HasTrail.compositional.program program trivial
            { session.moment declared with world := { session.world with output := #[] } } rfl
          obtain ⟨moments, rest⟩ := induction (session.after source) last.declared
          exact ⟨_, .ran read trail rest⟩

namespace Record

variable {declared : List (ScopeId × Binding)} {sources : List String} {moments : List Moment}

/-- The invariant holds at every moment of a session. -/
theorem invariant (record : Record session declared sources moments)
    (start : (session.moment declared).Invariant) : ∀ now ∈ moments, now.Invariant := by
  induction record with
  | done => exact List.forall_mem_singleton.mpr start
  | unread unread rest induction =>
      rw [after_of_unread unread] at induction
      exact List.forall_mem_cons.mpr ⟨start, induction start⟩
  | @ran session declared source sources passed moments program last read trail rest induction =>
      obtain ⟨during, ended⟩ := trail.invariant (start.elsewhere _ rfl rfl)
      rw [eq_moment read trail] at ended
      rw [List.cons_append, List.forall_mem_cons, List.forall_mem_append]
      exact ⟨start, during, induction ended⟩

/-- The last moment of a session is the one after all sources. -/
theorem final (record : Record session declared sources moments) :
    ∃ declared', declared ⊆ declared' ∧
      (session.afterAll sources).moment declared' ∈ moments := by
  induction record with
  | done session declared => exact ⟨declared, fun _ member => member, .head _⟩
  | unread unread rest induction =>
      obtain ⟨declared', more, member⟩ := induction
      exact ⟨declared', more, .tail _ member⟩
  | ran read trail rest induction =>
      obtain ⟨declared', more, member⟩ := induction
      exact ⟨declared', List.Subset.trans trail.declared_subset more,
        .tail _ (List.mem_append_right _ member)⟩

end Record

/-- The names of the constants that are installed differ. -/
theorem globals_nodup : ((Eval.globals 0).map Prod.fst).Nodup := by
  decide +kernel

/-- The invariant holds when a session starts. -/
theorem start_invariant (limits : Limits) (readings : Readings) :
    ((start limits readings).moment installed).Invariant := by
  have found : ∀ {id scope}, (opened limits readings).heap.scope? id = some scope →
      scope = Heap.root limits := by
    intro id scope found
    simp only [opened, World.mapHeap_heap] at found
    rw [Heap.scope?_addScope] at found
    split at found
    · exact (Option.some.inj found).symm
    · cases found
  have unbound : ∀ id name, (opened limits readings).heap.binding? id name = none := by
    intro id name
    rw [Heap.binding?]
    cases present : (opened limits readings).heap.scope? id with
    | none => rfl
    | some scope =>
        rw [found present]
        rfl
  have before : ({ world := opened limits readings, scope := ⟨0⟩, outer := [], declared := [] } :
      Moment).Invariant := by
    constructor
    case ordered =>
        constructor
        case parents =>
            intro id parent scope present inside
            rw [found present] at inside
            cases inside
        case closures =>
            intro id routine present
            cases present
    case opened => exact List.forall_mem_singleton.mpr Nat.zero_lt_one
    case declared => exact List.forall_mem_nil _
    case origin =>
        intro id name binding _ bound
        rw [unbound] at bound
        cases bound
    case lasting => exact fun member => absurd member List.not_mem_nil
  have after := before.declareConstants (Eval.globals 0) globals_nodup (by
    intro constant _
    rw [Heap.binds_eq, unbound]
    rfl)
  rw [start_eq]
  simpa [moment, installed] using after

@[simp] theorem start_scope (limits : Limits) (readings : Readings) :
    (start limits readings).scope = ⟨0⟩ := by
  rw [start_eq]

@[simp] theorem afterAll_scope (session : Session) (sources : List String) :
    (session.afterAll sources).scope = session.scope := by
  induction sources generalizing session with
  | nil => rfl
  | cons source sources induction => exact induction (session.after source)

/-- What is installed reads as it was installed, whatever a session has run. -/
theorem lookup_installed (limits : Limits) (readings : Readings) (sources : List String)
    {name : String} {value : Value} (global : (name, value) ∈ Eval.globals 0) :
    ((start limits readings).afterAll sources).world.heap.lookup ⟨0⟩ name = .ok value := by
  obtain ⟨moments, record⟩ := exists_record (start limits readings) installed sources
  obtain ⟨declared, more, member⟩ := record.final
  have invariant := record.invariant (start_invariant limits readings) _ member
  have declared : (⟨0⟩, ⟨name, value, true⟩) ∈ installed :=
    List.mem_reverse.mpr (List.mem_map.mpr ⟨_, global, rfl⟩)
  exact Heap.lookup_of_binding? (invariant.lasting (more declared) rfl
    (.opened (by simp [Moment.opened, moment])))

end Session

/-! ### Attempts to rebind a constant -/

namespace Eval

variable {α β : Type}

/-- What is run next matters only in the world that the first run leaves behind. -/
theorem bind_congr_last {run : Eval α} {next next' : α → Eval β} {world : World}
    (same : ∀ result, next result (last (run world)) = next' result (last (run world))) :
    (run >>= next) world = (run >>= next') world := by
  cases outcome : run world with
  | ok result later =>
      rw [outcome] at same
      rw [bind_of_ok outcome, bind_of_ok outcome]
      exact same result
  | error stop later => rw [bind_of_error outcome, bind_of_error outcome]

/-- A world in which a name is a constant of its nearest owner as seen from a scope. -/
def Fixes (scope : ScopeId) (name : String) (world : World) : Prop :=
  ∃ owner binding, world.heap.resolve? name scope = some (owner, binding) ∧
    binding.constant = true

variable {scope : ScopeId} {name : String} {world : World}

/-- What keeps the outlines of the scopes keeps constants. -/
theorem Fixes.later {run : Eval α} (fixes : Fixes scope name world)
    (keeps : ∀ count, KeepsOutlines count run) : Fixes scope name (last (run world)) := by
  obtain ⟨owner, binding, resolved, constant⟩ := fixes
  obtain ⟨-, same⟩ := keeps world.heap.scopes.size world (Nat.le_refl _)
  obtain ⟨binding', resolved', mark⟩ := Heap.resolve?_of_outlines
    (fun found => (same _ (Heap.lt_of_outline? found)).trans found) resolved
  exact ⟨owner, binding', resolved', mark.trans constant⟩

theorem Fixes.assign (fixes : Fixes scope name world) (value : Value) :
    Eval.assign scope name value world = Eval.fail (.constantReassigned name) world := by
  obtain ⟨owner, binding, resolved, constant⟩ := fixes
  rw [assign_apply, Heap.assignable, resolved]
  simp only [constant, if_true]
  rfl

theorem Fixes.writeCharacter (fixes : Fixes scope name world) (text : String)
    (index value : Value) :
    Eval.writeCharacter scope name text index value world = (do
      match ← readHeap (·.splicedText text index value) with
      | .ok _ => fail (.constantReassigned name)
      | .error fault => fail fault) world := by
  have read : readHeap (·.splicedText text index value) world =
      .ok (world.heap.splicedText text index value) world := rfl
  refine (bind_of_ok read).trans ((bind_of_ok read).trans ?_).symm
  cases world.heap.splicedText text index value with
  | error fault => rfl
  | ok spliced => exact (bind_of_error (fixes.assign (.text spliced))).symm

/-- Attempts in a world to rebind a name that reads as `held`: each evaluates its operands,
makes its checks and then fails, in the world that the operands have left behind. -/
structure RejectsRebinding (invoke : Invoke) (scope : ScopeId) (name : String) (held : Value)
    (world : World) : Prop where
  assign : ∀ value : Expr,
    (Expr.assign (.name name) value).eval invoke scope world = (do
      let _ ← value.eval invoke scope
      fail (.constantReassigned name)) world
  update : ∀ (operator : Arithmetic) (value : Expr),
    (Expr.update operator (.name name) value).eval invoke scope world = (do
      let value ← value.eval invoke scope
      if held.kind = Value.Kind.number ∧ value.kind = Value.Kind.number then
        fail (.constantReassigned name)
      else
        fail (.updateKinds operator held.kind value.kind)) world
  slot : ∀ (text : String) (index value : Expr), held = .text text →
    (Expr.assign (.member (.name name) index) value).eval invoke scope world = (do
      let index ← index.eval invoke scope
      let value ← value.eval invoke scope
      match ← readHeap (·.splicedText text index value) with
      | .ok _ => fail (.constantReassigned name)
      | .error fault => fail fault) world

theorem lookup_of_resolve? {owner : ScopeId} {binding : Binding}
    (resolved : world.heap.resolve? name scope = some (owner, binding)) :
    Eval.lookup scope name world = .ok binding.value world := by
  have read : Eval.readHeap (·.lookup scope name) world = .ok (.ok binding.value) world := by
    simp only [Eval.readHeap, Heap.lookup, resolved]
  exact bind_of_ok read

/-- A constant cannot be rebound from where its owner is the nearest one. -/
theorem rejectsRebinding {invoke : Invoke}
    (calls : ∀ count id arguments scope, (invoke id arguments scope).KeepsOutlines count)
    {owner : ScopeId} {binding : Binding}
    (resolved : world.heap.resolve? name scope = some (owner, binding))
    (constant : binding.constant = true) :
    RejectsRebinding invoke scope name binding.value world := by
  have fixes : Fixes scope name world := ⟨owner, binding, resolved, constant⟩
  have keeps : ∀ (expression : Expr) count,
      (expression.eval invoke scope).KeepsOutlines count :=
    fun expression count => (KeepsOutlines.compositional count).expression (calls count) expression
  have read := lookup_of_resolve? resolved
  constructor
  case assign =>
      intro value
      exact bind_congr_last fun result => (fixes.later (keeps value)).assign result
  case update =>
      intro operator value
      refine (bind_of_ok read).trans (bind_congr_last fun result => ?_)
      have refused := (fixes.later (keeps value)).assign
      cases binding.value with
      | number left =>
          cases result with
          | number right => exact refused _
          | _ => rfl
      | _ => rfl
  case slot =>
      intro text index value held
      rw [held] at read
      refine (bind_of_ok read).trans (bind_congr_last fun index' => ?_)
      refine bind_congr_last fun value' => ?_
      exact ((fixes.later (keeps index)).later (keeps value)).writeCharacter text index' value'

end Eval

/-- Constants never change: not at any moment of a session, neither those that are installed
nor those that its sources declare, nor by any attempt to rebind them. -/
theorem constants_never_change :
    (∀ (limits : Limits) (readings : Readings) (sources : List String),
      (∃ moments, Session.Record (.start limits readings) Session.installed sources moments) ∧
      (∀ moments, Session.Record (.start limits readings) Session.installed sources moments →
        ∀ now ∈ moments, now.ConstantsKept) ∧
      ∀ constant ∈ Eval.globals 0,
        ((Session.start limits readings).afterAll sources).world.heap.lookup ⟨0⟩ constant.1 =
          .ok constant.2) ∧
    ∀ (budget : Nat) (world : World) (scope owner : ScopeId) (name : String)
      (binding : Binding), world.heap.resolve? name scope = some (owner, binding) →
      binding.constant = true →
      Eval.RejectsRebinding (invokeWithin budget) scope name binding.value world := by
  refine ⟨fun limits readings sources => ⟨?_, ?_, ?_⟩, ?_⟩
  · exact Session.exists_record _ _ sources
  · intro moments record now member
    exact (record.invariant (Session.start_invariant limits readings) now member).constantsKept
  · intro constant global
    exact Session.lookup_installed limits readings sources global
  · intro budget world scope owner name binding resolved constant
    refine Eval.rejectsRebinding (fun count id arguments scope => ?_) resolved constant
    exact (Eval.KeepsOutlines.compositional count).invokeWithin budget id arguments

/-- A world with a constant text in its global scope and a block inside that scope. -/
def World.titled : World :=
  let inside : Scope := { Heap.root .standard with parent := some ⟨0⟩ }
  { World.initial (Readings.seeded 0 0) .release with
    heap := (Heap.empty.addScope
      ((Heap.root .standard).bind ⟨"title", .text "Hulk", true⟩)).addScope inside }

/-- A session that declares a constant and then tries to change it, and the attempts to
change the constant of a scope from a block inside it. -/
theorem constants_never_change_title :
    (∃ moments, Session.Record (.start .standard (Readings.seeded 0 0)) Session.installed
        ["newEternal title = 1;", "title = 2;"] moments ∧
      ∀ now ∈ moments, now.ConstantsKept) ∧
    World.titled.heap.resolve? "title" ⟨1⟩ = some (⟨0⟩, ⟨"title", .text "Hulk", true⟩) ∧
    Eval.RejectsRebinding (invokeWithin 1) ⟨1⟩ "title" (.text "Hulk") World.titled := by
  obtain ⟨sessions, attempts⟩ := constants_never_change
  have resolved : World.titled.heap.resolve? "title" ⟨1⟩ =
      some (⟨0⟩, ⟨"title", .text "Hulk", true⟩) := by
    simp [Heap.resolve?, World.titled, Heap.scope?, Heap.addScope, Heap.empty, Heap.root,
      Scope.find?, Scope.bind]
  obtain ⟨⟨moments, record⟩, kept, -⟩ := sessions .standard (Readings.seeded 0 0)
    ["newEternal title = 1;", "title = 2;"]
  exact ⟨⟨moments, record, kept moments record⟩, resolved, attempts 1 _ _ _ _ _ resolved rfl⟩

end Avenger
