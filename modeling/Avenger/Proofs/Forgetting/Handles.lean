import Avenger.Proofs.Locality.Pairing
import Mathlib.Data.List.Nodup

/-!
# Counting handles

Whoever runs a program holds scopes that are open and values on the way.  A place is freed when
nothing holds it and only freed places name it, and the handles of a place are what holds it and
what names it at the places that are not freed.  A scope that is held once and that otherwise
only functions of its own name, which nothing else names, is not found from anything else that
is held.
-/

namespace Avenger

/-- What is held outside of the heap. -/
structure Held where
  scopes : List ScopeId
  values : List Value

namespace Held

/-- The places that are held, each as often as it is. -/
def places (held : Held) : List Place :=
  held.scopes.map .scope ++ held.values.filterMap Value.place?

/-- Values are held, too. -/
def and (held : Held) (values : List Value) : Held :=
  { held with values := values ++ held.values }

/-- A scope is held, too. -/
def opened (held : Held) (scope : ScopeId) : Held :=
  { held with scopes := scope :: held.scopes }

end Held

/-- Values do not name scopes. -/
theorem Value.place?_ne_scope (value : Value) (id : ScopeId) :
    value.place? ≠ some (.scope id) := by
  cases value <;> nofun

theorem Held.mem_places_scope {held : Held} {id : ScopeId} :
    .scope id ∈ held.places ↔ id ∈ held.scopes := by
  simp [places, Value.place?_ne_scope]

/-- The places that a scope names. -/
def Scope.references (scope : Scope) : List Place :=
  scope.parent.toList.map .scope ++ scope.bindings.filterMap (·.value.place?)

namespace Heap

/-- The places at which something stands. -/
def places (heap : Heap) : List Place :=
  (List.range heap.scopes.size).map (.scope ⟨·⟩) ++
    (List.range heap.teams.size).map (.team ⟨·⟩) ++
    (List.range heap.routines.size).map (.routine ⟨·⟩)

/-- The places that what stands at a place names, each as often as it does. -/
def references (heap : Heap) : Place → List Place
  | .scope id => ((heap.scope? id).map (·.references)).getD []
  | .team id => (heap.elements id).toList.filterMap Value.place?
  | .routine id => ((heap.routine? id).map fun routine => Place.scope routine.closure).toList

/-- The places that nothing holds and that only freed places name. -/
def sweep (heap : Heap) (held : Held) (freed : List Place) : List Place :=
  heap.places.filter fun place =>
    !held.places.contains place &&
      heap.places.all fun other => freed.contains other || !(heap.references other).contains place

/-- The places that are freed after a number of sweeps. -/
def freedBy (heap : Heap) (held : Held) : Nat → List Place
  | 0 => []
  | sweeps + 1 => heap.sweep held (heap.freedBy held sweeps)

/-- The places that are freed.  Each sweep frees another place unless it is the last that does, so
these are enough. -/
def freed (heap : Heap) (held : Held) : List Place := heap.freedBy held heap.places.length

/-- The places that are not freed. -/
def live (heap : Heap) (held : Held) : List Place :=
  heap.places.filter fun place => !(heap.freed held).contains place

/-- How often a place is held or named by something that is not freed. -/
def handles (heap : Heap) (held : Held) (place : Place) : Nat :=
  (held.places ++ (heap.live held).flatMap heap.references).count place

/-- The functions bound in a scope that were defined in it and that nothing else names. -/
def captures (heap : Heap) (held : Held) (scope : ScopeId) : List Place :=
  (heap.references (.scope scope)).filter fun
    | .routine id =>
        heap.handles held (.routine id) == 1 &&
          (heap.references (.routine id)).contains (.scope scope)
    | _ => false

/-- Whether only functions of its own hold a scope that is about to end, apart from the frame that
ends. -/
def isolates (heap : Heap) (held : Held) (scope : ScopeId) : Bool :=
  heap.handles (held.opened scope) (.scope scope) ==
    1 + (heap.captures (held.opened scope) scope).length

section Places

variable {heap : Heap} {place other : Place}

theorem mem_places : place ∈ heap.places ↔ heap.Has place := by
  cases place with
  | scope id =>
      cases id
      simp [places, Has]
  | team id =>
      cases id
      simp [places, Has]
  | routine id =>
      cases id
      simp [places, Has]

theorem mem_references : other ∈ heap.references place ↔ heap.Link place other := by
  constructor
  · intro member
    cases place with
    | scope id =>
        cases found : heap.scope? id with
        | none => simp [references, found] at member
        | some scope =>
            simp only [references, found, Scope.references, Option.map_some, Option.getD_some,
              List.mem_append, List.mem_map, Option.mem_toList, List.mem_filterMap] at member
            rcases member with ⟨parent, inside, rfl⟩ | ⟨binding, bound, names⟩
            · exact .parent found inside
            · exact .bound found bound names
    | team id =>
        cases found : heap.team? id with
        | none => simp [references, elements, found] at member
        | some team =>
            simp only [references, elements, found, Option.map_some, Option.getD_some,
              List.mem_filterMap, Array.mem_toList_iff] at member
            obtain ⟨value, inside, names⟩ := member
            exact .element found inside names
    | routine id =>
        cases found : heap.routine? id with
        | none => simp [references, found] at member
        | some routine =>
            obtain rfl : other = .scope routine.closure := by
              simpa [references, found] using member
            exact .closure found
  · intro link
    cases link with
    | parent found inside => simp [references, found, Scope.references, inside]
    | bound found bound names =>
        simp only [references, found, Scope.references, Option.map_some, Option.getD_some]
        exact List.mem_append_right _ (List.mem_filterMap.mpr ⟨_, bound, names⟩)
    | element found inside names =>
        simp only [references, elements, found, Option.map_some, Option.getD_some]
        exact List.mem_filterMap.mpr ⟨_, Array.mem_toList_iff.mpr inside, names⟩
    | closure found => simp [references, found]

/-- Something stands at a place that names another one. -/
theorem Link.has (link : heap.Link place other) : heap.Has place := by
  cases link with
  | parent found | bound found => exact lt_of_scope? found
  | element found => exact lt_of_team? found
  | closure found => exact lt_of_routine? found

end Places

section Sweeps

variable {heap : Heap} {held : Held} {place other : Place}

theorem mem_sweep {freed : List Place} : place ∈ heap.sweep held freed ↔
    heap.Has place ∧ place ∉ held.places ∧
      ∀ other, heap.Link other place → other ∈ freed := by
  simp only [sweep, List.mem_filter, mem_places, Bool.and_eq_true, Bool.not_eq_true',
    List.contains_eq_mem, decide_eq_false_iff_not, List.all_eq_true, Bool.or_eq_true,
    decide_eq_true_eq, mem_references]
  refine and_congr_right fun _ => and_congr_right fun _ => ⟨?_, ?_⟩
  · intro all other link
    exact (all other link.has).resolve_right (not_not_intro link)
  · intro all other _
    exact (Classical.em (heap.Link other place)).imp (all other) id

theorem sweep_mono {freed later : List Place} (more : freed ⊆ later) :
    (heap.sweep held freed).Sublist (heap.sweep held later) := by
  refine List.monotone_filter_right _ fun place holds => ?_
  revert holds
  simp only [Bool.and_eq_true, List.all_eq_true, Bool.or_eq_true, List.contains_eq_mem,
    decide_eq_true_eq]
  exact fun ⟨unheld, named⟩ => ⟨unheld, fun other has => (named other has).imp (@more _) id⟩

/-- What was freed by earlier sweeps is freed by later ones. -/
theorem freedBy_succ (heap : Heap) (held : Held) (sweeps : Nat) :
    (heap.freedBy held sweeps).Sublist (heap.freedBy held (sweeps + 1)) := by
  induction sweeps with
  | zero => exact List.nil_sublist _
  | succ sweeps induction => exact sweep_mono induction.subset

/-- As long as sweeps free something, there are as many freed places as sweeps. -/
theorem freedBy_length (heap : Heap) (held : Held) (sweeps : Nat) :
    sweeps ≤ (heap.freedBy held sweeps).length ∨
      heap.freedBy held sweeps = heap.freedBy held (sweeps + 1) := by
  induction sweeps with
  | zero => exact .inl (Nat.zero_le _)
  | succ sweeps induction =>
      rcases induction with enough | same
      · have more := heap.freedBy_succ held sweeps
        have longer := more.length_le
        by_cases same : (heap.freedBy held sweeps).length = (heap.freedBy held (sweeps + 1)).length
        · exact .inr (congrArg (heap.sweep held) (more.eq_of_length same))
        · exact .inl (by omega)
      · exact .inr (congrArg (heap.sweep held) same)

/-- Another sweep frees nothing more. -/
theorem sweep_freed : heap.sweep held (heap.freed held) = heap.freed held := by
  rcases heap.freedBy_length held heap.places.length with enough | same
  · have most : (heap.freedBy held (heap.places.length + 1)).length ≤ heap.places.length :=
      List.length_filter_le _ _
    have sublist := heap.freedBy_succ held heap.places.length
    exact (sublist.eq_of_length (by have := sublist.length_le; omega)).symm
  · exact same.symm

/-- The places that are not freed are those that are held or named at one that is not freed. -/
theorem mem_live_iff : place ∈ heap.live held ↔ heap.Has place ∧
    (place ∈ held.places ∨ ∃ other ∈ heap.live held, heap.Link other place) := by
  have live (place : Place) :
      place ∈ heap.live held ↔ heap.Has place ∧ place ∉ heap.freed held := by
    simp [Heap.live, mem_places]
  rw [live]
  refine and_congr_right fun has => ?_
  rw [← sweep_freed, mem_sweep]
  constructor
  · intro unfreed
    by_contra free
    push Not at free
    refine unfreed ⟨has, free.1, fun other link => ?_⟩
    by_contra present
    exact free.2 other ((live other).mpr ⟨link.has, present⟩) link
  · rintro (held | ⟨other, present, link⟩) ⟨-, unheld, named⟩
    · exact unheld held
    · exact ((live other).mp present).2 (named other link)

/-- What is found from something that is held is not freed. -/
theorem Finds.mem_live (found : heap.Finds held.places place) (has : heap.Has place) :
    place ∈ heap.live held := by
  obtain ⟨root, member, reaches⟩ := found
  induction reaches with
  | refl => exact mem_live_iff.mpr ⟨has, .inl member⟩
  | tail _ link induction => exact mem_live_iff.mpr ⟨has, .inr ⟨_, induction link.has, link⟩⟩

end Sweeps

section Counting

variable {heap : Heap} {held : Held}

/-- A place is named at least as often as there are places that name it. -/
theorem length_le_count_references {naming places : List Place} {place : Place}
    (distinct : naming.Nodup) (among : naming ⊆ places)
    (name : ∀ other ∈ naming, heap.Link other place) :
    naming.length ≤ (places.flatMap heap.references).count place := by
  have within : naming ⊆ places.filter fun other => (heap.references other).contains place := by
    intro other member
    simpa [mem_references] using And.intro (among member) (name other member)
  refine Nat.le_trans (distinct.length_le_of_subset within) ?_
  clear distinct among name within
  induction places with
  | nil => exact Nat.le_refl _
  | cons other rest induction =>
      rw [List.flatMap_cons, List.count_append, List.filter_cons]
      split
      · next names =>
          have once := List.count_pos_iff.mpr (List.contains_iff_mem.mp names)
          rw [List.length_cons]
          omega
      · omega

/-- What stands at a live place gives each handle that it names. -/
theorem count_references_le {other : Place} (present : other ∈ heap.live held) (place : Place) :
    (heap.references other).count place ≤
      ((heap.live held).flatMap heap.references).count place := by
  obtain ⟨before, after, split⟩ := List.append_of_mem present
  rw [split, List.flatMap_append, List.flatMap_cons, List.count_append, List.count_append]
  omega

/-- A held place that something names has two handles. -/
theorem two_le_handles {place other : Place} (member : place ∈ held.places)
    (present : other ∈ heap.live held) (link : heap.Link other place) :
    2 ≤ heap.handles held place := by
  have counted := List.count_pos_iff.mpr member
  have named := List.count_pos_iff.mpr (mem_references.mpr link)
  have within := heap.count_references_le present place
  rw [handles, List.count_append]
  omega

variable {scope : ScopeId}

/-- A captured function is named by the scope only, and names it. -/
theorem mem_captures {place : Place} (captured : place ∈ heap.captures held scope) :
    heap.Link (.scope scope) place ∧ heap.handles held place = 1 ∧
      heap.Link place (.scope scope) := by
  obtain ⟨named, single⟩ := List.mem_filter.mp captured
  split at single
  · simp only [Bool.and_eq_true, beq_iff_eq, List.contains_eq_mem, decide_eq_true_eq,
      mem_references] at single
    exact ⟨mem_references.mp named, single⟩
  · cases single

section Captures

variable (opened : Place.scope scope ∈ held.places)
include opened

/-- A scope that names something while it is held is not freed. -/
theorem Link.live {place : Place} (link : heap.Link (.scope scope) place) :
    .scope scope ∈ heap.live held :=
  mem_live_iff.mpr ⟨link.has, .inl opened⟩

theorem captures_subset_live : heap.captures held scope ⊆ heap.live held := by
  intro place captured
  obtain ⟨link, -, back⟩ := mem_captures captured
  exact mem_live_iff.mpr ⟨back.has, .inr ⟨_, link.live opened, link⟩⟩

theorem captures_nodup : (heap.captures held scope).Nodup := by
  refine List.nodup_iff_count_le_one.mpr fun place => ?_
  by_cases captured : place ∈ heap.captures held scope
  · obtain ⟨link, single, -⟩ := mem_captures captured
    have among := heap.count_references_le (link.live opened) place
    have fewer : (heap.captures held scope).count place ≤
        (heap.references (.scope scope)).count place := List.filter_sublist.count_le place
    rw [handles, List.count_append] at single
    omega
  · rw [List.count_eq_zero_of_not_mem captured]
    exact Nat.zero_le 1

/-- If a scope has no more handles than its captured functions and one for being open, these are
all there are. -/
theorem handles_eq_captures
    (counted : heap.handles held (.scope scope) = 1 + (heap.captures held scope).length) :
    held.places.count (.scope scope) = 1 ∧
      ∀ other ∈ heap.live held, heap.Link other (.scope scope) →
        other ∈ heap.captures held scope := by
  have names : ∀ other ∈ heap.captures held scope, heap.Link other (.scope scope) :=
    fun other captured => (mem_captures captured).2.2
  have distinct := heap.captures_nodup opened
  have among := heap.captures_subset_live opened
  have held := List.count_pos_iff.mpr opened
  have named := heap.length_le_count_references distinct among names
  rw [handles, List.count_append] at counted
  refine ⟨by omega, fun other present link => ?_⟩
  by_contra free
  have more := heap.length_le_count_references (List.nodup_cons.mpr ⟨free, distinct⟩)
    (List.cons_subset.mpr ⟨present, among⟩) (List.forall_mem_cons.mpr ⟨link, names⟩)
  rw [List.length_cons] at more
  omega

end Captures

/-- A scope that only functions of its own hold, apart from the frame that ends, is not found from
anything else that is held. -/
theorem not_finds_of_isolates (isolated : heap.isolates held scope = true) :
    ¬ heap.Finds held.places (.scope scope) := by
  have opened : Place.scope scope ∈ (held.opened scope).places := .head _
  obtain ⟨once, only⟩ := heap.handles_eq_captures opened (beq_iff_eq.mp isolated)
  have unheld : Place.scope scope ∉ held.places := by
    have split : (held.opened scope).places = .scope scope :: held.places := rfl
    rw [split, List.count_cons_self] at once
    exact List.count_eq_zero.mp (by omega)
  -- The scope and its captured functions are entered from nowhere else.
  let outside (place : Place) : Prop := heap.Finds (held.opened scope).places place ∧
    place ≠ .scope scope ∧ place ∉ heap.captures (held.opened scope) scope
  have starts : ∀ root ∈ held.places, outside root := by
    intro root member
    have member' : root ∈ (held.opened scope).places := .tail _ member
    refine ⟨⟨root, member', .refl⟩, fun same => unheld (same ▸ member), fun captured => ?_⟩
    obtain ⟨link, single, -⟩ := mem_captures captured
    have double := heap.two_le_handles member' (link.live opened) link
    omega
  have links : ∀ {place other}, outside place → heap.Link place other → outside other := by
    rintro place other ⟨found, apart, free⟩ link
    have present := found.mem_live link.has
    refine ⟨found.next link, ?_, fun captured => ?_⟩
    · rintro rfl
      exact free (only place present link)
    · obtain ⟨link', single, -⟩ := mem_captures captured
      have double := heap.length_le_count_references
        (List.nodup_cons.mpr ⟨mt List.mem_singleton.mp apart, List.nodup_singleton _⟩)
        (List.cons_subset.mpr ⟨present, List.forall_mem_singleton.mpr (link'.live opened)⟩)
        (List.forall_mem_cons.mpr ⟨link, List.forall_mem_singleton.mpr link'⟩)
      rw [handles, List.count_append] at single
      simp only [List.length_cons, List.length_nil] at double
      omega
  exact fun found => (found.within starts links).2.1 rfl

/-- A global scope, and a block inside it that defines a function. -/
def definingBlock : Heap where
  scopes := #[root .standard,
    { root .standard with bindings := [⟨"next", .routine ⟨0⟩, false⟩], parent := some ⟨0⟩ }]
  teams := #[]
  routines := #[{ name := "next", parameters := [], body := [], closure := ⟨1⟩ }]

/-- The block is isolated unless its function is held as well. -/
example : definingBlock.isolates ⟨[⟨0⟩], []⟩ ⟨1⟩ = true ∧
    definingBlock.isolates ⟨[⟨0⟩], [.routine ⟨0⟩]⟩ ⟨1⟩ = false := by decide

end Counting

end Heap

end Avenger
