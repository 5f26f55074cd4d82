import Avenger.Eval.Element
import Mathlib.Data.Finset.Card
import Mathlib.Data.List.Forall2
import Mathlib.Logic.Relation

/-!
# The text of teams that share and contain each other

Teams may contain each other and themselves, but the text of each is finite.  It is that of a tree
in which the teams have been unfolded, except for those that are met again inside themselves.  Such
a team is one that some path through the elements leads from back to it, so that the text of a team
has a mark exactly if such a team can be reached.
-/

namespace Avenger

/-- A value unfolded to a tree. -/
inductive Unfolding where
  | plain (value : Value)
  /-- A team met again inside itself. -/
  | mark (id : TeamId)
  | team (id : TeamId) (parts : List Unfolding)

namespace Unfolding

mutual

/-- The text of an unfolded value. -/
def text (heap : Heap) : Unfolding → String
  | .plain value => heap.plainValueText value
  | .mark _ => "[...]"
  | .team _ parts => "[" ++ ", ".intercalate (texts heap parts) ++ "]"

/-- The texts of unfolded values. -/
def texts (heap : Heap) : List Unfolding → List String
  | [] => []
  | part :: rest => part.text heap :: texts heap rest

end

theorem texts_eq_map (heap : Heap) (parts : List Unfolding) :
    texts heap parts = parts.map (·.text heap) := by
  induction parts with
  | nil => rfl
  | cons part rest induction => rw [texts, induction, List.map_cons]

/-- What occurs in an unfolded value. -/
inductive Occurs (part : Unfolding) : Unfolding → Prop where
  | whole : Occurs part part
  | inside {id : TeamId} {parts : List Unfolding} {branch : Unfolding} (member : branch ∈ parts)
      (occurs : Occurs part branch) : Occurs part (.team id parts)

end Unfolding

namespace Heap

/-- What a value unfolds to inside the given teams: a team that is one of these is marked, and any
other is shown by what its elements unfold to inside it. -/
inductive UnfoldsTo (heap : Heap) : List TeamId → Value → Unfolding → Prop where
  | plain {outer : List TeamId} {value : Value} (other : value.kind ≠ .team) :
      UnfoldsTo heap outer value (.plain value)
  | mark {outer : List TeamId} {id : TeamId} (again : id ∈ outer) :
      UnfoldsTo heap outer (.team id) (.mark id)
  | team {outer : List TeamId} {id : TeamId} {parts : List Unfolding} (first : id ∉ outer)
      (length : parts.length = (heap.elements id).size)
      (each : ∀ (position : Nat) value part, (heap.elements id)[position]? = some value →
        parts[position]? = some part → UnfoldsTo heap (id :: outer) value part) :
      UnfoldsTo heap outer (.team id) (.team id parts)

/-- A value and a text of it in which nothing is marked. -/
inductive Renders (heap : Heap) : Value → String → Prop where
  | plain {value : Value} (other : value.kind ≠ .team) :
      Renders heap value (heap.plainValueText value)
  | team {id : TeamId} {texts : List String}
      (elements : List.Forall₂ (Renders heap) (heap.elements id).toList texts) :
      Renders heap (.team id) ("[" ++ ", ".intercalate texts ++ "]")

/-- A team and one of its elements. -/
def Contains (heap : Heap) (whole element : Value) : Prop :=
  ∃ id, whole = .team id ∧ element ∈ (heap.elements id).toList

/-- A path through elements, of any length, leads from a value to another. -/
abbrev LeadsTo (heap : Heap) : Value → Value → Prop := Relation.ReflTransGen heap.Contains

/-- A value is inside a team, perhaps inside other teams in it. -/
abbrev HasInside (heap : Heap) : Value → Value → Prop := Relation.TransGen heap.Contains

variable {heap : Heap} {outer : List TeamId} {id : TeamId} {value : Value}
  {unfolding : Unfolding}

/-! ### Every team unfolds -/

/-- How many teams are not among the given ones. -/
def unopened (heap : Heap) (outer : List TeamId) : Nat :=
  ((Finset.range heap.teams.size).filter fun index => ⟨index⟩ ∉ outer).card

theorem unopened_cons_lt (present : id.index < heap.teams.size) (first : id ∉ outer) :
    heap.unopened (id :: outer) < heap.unopened outer := by
  apply Finset.card_lt_card
  rw [Finset.ssubset_iff_of_subset]
  · refine ⟨id.index, Finset.mem_filter.mpr ⟨Finset.mem_range.mpr present, first⟩, ?_⟩
    intro member
    exact (Finset.mem_filter.mp member).2 List.mem_cons_self
  · intro index member
    obtain ⟨inRange, apart⟩ := Finset.mem_filter.mp member
    exact Finset.mem_filter.mpr ⟨inRange, fun inside => apart (List.mem_cons_of_mem _ inside)⟩

theorem unopened_nil_le (heap : Heap) : heap.unopened [] ≤ heap.teams.size :=
  (Finset.card_filter_le _ _).trans (Finset.card_range _).le

theorem elements_toList (heap : Heap) (id : TeamId) :
    (heap.elements id).toList = ((heap.team? id).map (·.elements.toList)).getD [] := by
  unfold elements
  cases heap.team? id <;> rfl

/-- Only teams of the heap have elements. -/
theorem lt_of_mem_elements (member : value ∈ (heap.elements id).toList) :
    id.index < heap.teams.size := by
  by_contra absent
  have missing : heap.team? id = none := Array.getElem?_eq_none (Nat.le_of_not_lt absent)
  rw [elements_toList, missing] at member
  cases member

/-- The text of an element inside the given teams, to the given depth. -/
def elementTextWithin (heap : Heap) (depth : Nat) (outer : List TeamId) : Value → String
  | .team inner => heap.teamTextWithin depth outer inner
  | element => heap.plainValueText element

theorem teamTextWithin_of_first (depth : Nat) (first : id ∉ outer) :
    heap.teamTextWithin (depth + 1) outer id = "[" ++ ", ".intercalate
      ((heap.elements id).toList.map (heap.elementTextWithin depth (id :: outer))) ++ "]" := by
  have apart : ¬ outer.contains id = true := fun inside => first (List.contains_iff_mem.mp inside)
  rw [teamTextWithin, if_neg apart, elements_toList]
  rfl

/-- A depth beyond the number of teams that are not open yet is never used up. -/
theorem teamTextWithin_eq {depth : Nat} (enough : heap.unopened outer < depth) :
    ∃ unfolding, heap.UnfoldsTo outer (.team id) unfolding ∧
      heap.teamTextWithin depth outer id = unfolding.text heap := by
  induction depth generalizing outer id with
  | zero => exact absurd enough (Nat.not_lt_zero _)
  | succ depth induction =>
      by_cases again : id ∈ outer
      · refine ⟨.mark id, .mark again, ?_⟩
        rw [teamTextWithin, if_pos (List.contains_iff_mem.mpr again)]
        rfl
      · have each : ∀ value, ∃ part, value ∈ (heap.elements id).toList →
            heap.UnfoldsTo (id :: outer) value part ∧
              heap.elementTextWithin depth (id :: outer) value = part.text heap := by
          intro value
          -- Any tree will do for a value that is no element; the induction says nothing of it.
          cases value with
          | team inner =>
              by_cases member : .team inner ∈ (heap.elements id).toList
              · have fewer := unopened_cons_lt (lt_of_mem_elements member) again
                obtain ⟨part, unfolds, same⟩ := @induction (id :: outer) inner (by omega)
                exact ⟨part, fun _ => ⟨unfolds, same⟩⟩
              · exact ⟨.mark inner, fun inside => absurd inside member⟩
          | _ => exact ⟨_, fun _ => ⟨.plain (by simp [Value.kind]), rfl⟩⟩
        choose part unfolds using each
        refine ⟨.team id ((heap.elements id).toList.map part), .team again (by simp) ?_, ?_⟩
        · intro position value shown found there
          have member : value ∈ (heap.elements id).toList :=
            Array.mem_toList_iff.mpr (Array.mem_of_getElem? found)
          rw [List.getElem?_map, Array.getElem?_toList, found] at there
          cases there
          exact (unfolds value member).1
        · have texts : (heap.elements id).toList.map (heap.elementTextWithin depth (id :: outer)) =
              ((heap.elements id).toList.map part).map (·.text heap) := by
            rw [List.map_map]
            exact List.map_congr_left fun value member => (unfolds value member).2
          rw [teamTextWithin_of_first depth again, texts, Unfolding.text, Unfolding.texts_eq_map]

theorem UnfoldsTo.unique {other : Unfolding} (first : heap.UnfoldsTo outer value unfolding)
    (second : heap.UnfoldsTo outer value other) : other = unfolding := by
  induction first generalizing other with
  | plain apart =>
      cases second with
      | plain => rfl
      | mark | team => exact absurd rfl apart
  | mark again =>
      cases second with
      | plain apart => exact absurd rfl apart
      | mark => rfl
      | team first => exact absurd again first
  | @team outer id parts first length each induction =>
      cases second with
      | plain apart => exact absurd rfl apart
      | mark again => exact absurd again first
      | @team _ _ others _ length' each' =>
          have same : others = parts := by
            apply List.ext_getElem (length'.trans length.symm)
            intro position within within'
            have inside : position < (heap.elements id).size := length ▸ within'
            exact induction position _ _ (Array.getElem?_eq_getElem inside)
              (List.getElem?_eq_getElem within') (each' position _ _
                (Array.getElem?_eq_getElem inside) (List.getElem?_eq_getElem within))
          rw [same]

/-! ### What is marked -/

theorem contains_of_getElem? {position : Nat}
    (found : (heap.elements id)[position]? = some value) : heap.Contains (.team id) value :=
  ⟨id, rfl, Array.mem_toList_iff.mpr (Array.mem_of_getElem? found)⟩

/-- What occurs in an unfolded value is what some value has unfolded to that the value leads to.
The teams that it is inside of are those on the way there, and those that were open before. -/
theorem UnfoldsTo.of_occurs {part : Unfolding} (unfolds : heap.UnfoldsTo outer value unfolding)
    (around : ∀ id ∈ outer, heap.HasInside (.team id) value) (occurs : part.Occurs unfolding) :
    ∃ inner found, heap.UnfoldsTo inner found part ∧ heap.LeadsTo value found ∧
      ∀ id ∈ inner, heap.HasInside (.team id) found := by
  induction unfolds with
  | plain apart =>
      cases occurs
      exact ⟨_, _, .plain apart, .refl, around⟩
  | mark again =>
      cases occurs
      exact ⟨_, _, .mark again, .refl, around⟩
  | @team outer id parts first length each induction =>
      cases occurs with
      | whole => exact ⟨_, _, .team first length each, .refl, around⟩
      | @inside _ _ branch member occurs =>
          obtain ⟨position, within, there⟩ := List.getElem_of_mem member
          have inside : position < (heap.elements id).size := length ▸ within
          have found := Array.getElem?_eq_getElem inside
          have element := contains_of_getElem? found
          have around' : ∀ open' ∈ id :: outer,
              heap.HasInside (.team open') (heap.elements id)[position] := by
            intro other member
            rcases List.mem_cons.mp member with rfl | earlier
            · exact .single element
            · exact (around other earlier).tail element
          obtain ⟨inner, value, unfolds, leads, around⟩ := induction position _ branch found
            (List.getElem?_eq_some_iff.mpr ⟨within, there⟩) around' occurs
          exact ⟨inner, value, unfolds, leads.head element, around⟩

/-- A team is only marked inside itself. -/
theorem UnfoldsTo.inside_of_mark {root inner : TeamId}
    (unfolds : heap.UnfoldsTo [] (.team root) unfolding)
    (occurs : (Unfolding.mark inner).Occurs unfolding) :
    heap.LeadsTo (.team root) (.team inner) ∧ heap.HasInside (.team inner) (.team inner) := by
  obtain ⟨around, found, unfolded, leads, inside⟩ := unfolds.of_occurs (by simp) occurs
  cases unfolded with
  | mark again => exact ⟨leads, inside inner again⟩

/-- Only those open teams matter that a value leads to. -/
theorem UnfoldsTo.congr {outer' : List TeamId} (unfolds : heap.UnfoldsTo outer value unfolding)
    (same : ∀ id, heap.LeadsTo value (.team id) → (id ∈ outer ↔ id ∈ outer')) :
    heap.UnfoldsTo outer' value unfolding := by
  induction unfolds generalizing outer' with
  | plain apart => exact .plain apart
  | @mark outer id again => exact .mark ((same id .refl).mp again)
  | @team outer id parts first length each induction =>
      refine .team (fun again => first ((same id .refl).mpr again)) length ?_
      intro position value part found there
      refine induction position value part found there fun other leads => ?_
      rw [List.mem_cons, List.mem_cons, same other (leads.head (contains_of_getElem? found))]

/-- A team that is not inside itself is unfolded wherever it occurs as it is alone. -/
theorem UnfoldsTo.alone {inner : TeamId} (unfolds : heap.UnfoldsTo outer (.team inner) unfolding)
    (around : ∀ id ∈ outer, heap.HasInside (.team id) (.team inner))
    (free : ¬heap.HasInside (.team inner) (.team inner)) :
    heap.UnfoldsTo [] (.team inner) unfolding := by
  refine unfolds.congr fun id leads => iff_of_false (fun member => free ?_) List.not_mem_nil
  exact Relation.TransGen.trans_right leads (around id member)

/-! ### Teams without cycles -/

theorem UnfoldsTo.renders (unfolds : heap.UnfoldsTo outer value unfolding)
    (unmarked : ∀ id, ¬(Unfolding.mark id).Occurs unfolding) :
    heap.Renders value (unfolding.text heap) := by
  induction unfolds with
  | plain apart => exact .plain apart
  | @mark outer id => exact absurd .whole (unmarked id)
  | @team outer id parts first length each induction =>
      rw [Unfolding.text, Unfolding.texts_eq_map]
      refine .team (List.forall₂_iff_get.mpr ⟨by simp [length], ?_⟩)
      intro position within within'
      have inside : position < (heap.elements id).size := by simpa using within
      have there : position < parts.length := length ▸ inside
      have rendered := induction position _ _ (Array.getElem?_eq_getElem inside)
        (List.getElem?_eq_getElem there) fun inner occurs =>
          unmarked inner (.inside (List.getElem_mem there) occurs)
      simpa using rendered

/-- A value that unfolds without a mark leads to no team that is inside itself. -/
theorem UnfoldsTo.no_cycle {found : Value} (unfolds : heap.UnfoldsTo outer value unfolding)
    (unmarked : ∀ id, ¬(Unfolding.mark id).Occurs unfolding) (leads : heap.LeadsTo value found) :
    ¬heap.HasInside found found := by
  induction unfolds generalizing found with
  | plain apart =>
      intro cycle
      obtain ⟨element, ⟨id, same, -⟩, -⟩ := Relation.TransGen.head'_iff.mp
        (Relation.TransGen.trans_right leads cycle)
      exact apart (congrArg Value.kind same)
  | @mark outer id => exact absurd .whole (unmarked id)
  | @team outer id parts first length each induction =>
      have inElement : ∀ element, heap.Contains (.team id) element →
          ∀ found, heap.LeadsTo element found → ¬heap.HasInside found found := by
        rintro element ⟨_, ⟨⟩, member⟩ found leads
        obtain ⟨position, inside, rfl⟩ := List.getElem_of_mem member
        have there : position < parts.length := by simpa [length] using inside
        exact induction position _ _ (by simp) (List.getElem?_eq_getElem there)
          (fun inner occurs => unmarked inner (.inside (List.getElem_mem there) occurs)) leads
      rcases leads.cases_head with rfl | ⟨element, contained, leads⟩
      · intro cycle
        obtain ⟨element, contained, back⟩ := Relation.TransGen.head'_iff.mp cycle
        exact inElement element contained element .refl (.tail' back contained)
      · exact inElement element contained found leads

end Heap

/-- The text of a team is that of the one tree that the team unfolds to, where a team is marked
exactly where it is met again inside itself.  Something is marked exactly if the team leads to one
that is inside itself; otherwise the text is made of those of the elements all the way.  A team that
is not inside itself is never marked, and has its full text wherever it occurs. -/
theorem team_text_marks_cycles (heap : Heap) (root : TeamId) :
    ∃ unfolding, heap.UnfoldsTo [] (.team root) unfolding ∧
      (∀ other, heap.UnfoldsTo [] (.team root) other → other = unfolding) ∧
      heap.valueText (.team root) = unfolding.text heap ∧
      ((∃ id, (Unfolding.mark id).Occurs unfolding) ↔
        ∃ id, heap.LeadsTo (.team root) (.team id) ∧ heap.HasInside (.team id) (.team id)) ∧
      ((∀ id, heap.LeadsTo (.team root) (.team id) → ¬heap.HasInside (.team id) (.team id)) →
        heap.Renders (.team root) (heap.valueText (.team root))) ∧
      ∀ id, ¬heap.HasInside (.team id) (.team id) →
        ¬(Unfolding.mark id).Occurs unfolding ∧
          ∀ parts, (Unfolding.team id parts).Occurs unfolding →
            (Unfolding.team id parts).text heap = heap.valueText (.team id) := by
  have alone : ∀ id, ∃ unfolding, heap.UnfoldsTo [] (.team id) unfolding ∧
      heap.valueText (.team id) = unfolding.text heap := fun id =>
    Heap.teamTextWithin_eq (Nat.lt_succ_of_le heap.unopened_nil_le)
  obtain ⟨unfolding, unfolds, text⟩ := alone root
  refine ⟨unfolding, unfolds, fun other => unfolds.unique, text, ⟨?_, ?_⟩, ?_, ?_⟩
  · rintro ⟨id, occurs⟩
    exact ⟨id, unfolds.inside_of_mark occurs⟩
  · rintro ⟨id, leads, cycle⟩
    by_contra unmarked
    exact unfolds.no_cycle (not_exists.mp unmarked) leads cycle
  · intro free
    rw [text]
    refine unfolds.renders fun id occurs => ?_
    obtain ⟨leads, cycle⟩ := unfolds.inside_of_mark occurs
    exact free id leads cycle
  · intro id free
    refine ⟨fun occurs => free (unfolds.inside_of_mark occurs).2, fun parts occurs => ?_⟩
    obtain ⟨outer, found, unfolded, -, around⟩ := unfolds.of_occurs (by simp) occurs
    obtain ⟨unfolding', unfolds', text'⟩ := alone id
    cases unfolded with
    | team first length each =>
        have shown := (Heap.UnfoldsTo.team first length each).alone around free
        rw [text', unfolds'.unique shown]

/-- A team that is shared is shown twice, and one that contains itself is marked once. -/
example :
    let shared : Team := ⟨"b", #[.text "x"]⟩
    let whole : Team := ⟨"a", #[.team ⟨1⟩, .team ⟨1⟩, .team ⟨0⟩]⟩
    ({ Heap.empty with teams := #[whole, shared] } : Heap).valueText (.team ⟨0⟩) =
      "[[x], [x], [...]]" := by
  decide

end Avenger
