import Avenger.Proofs.Sequence

/-!
# Operands

The operands of an assignment to a slot and of the reading of a member are evaluated from left to
right.  The first that fails is the end of it; otherwise their values decide what is done in the
world that they have left behind, and what then fails changes nothing.
-/

namespace Avenger

namespace Expr

variable {invoke : Invoke} {scope : ScopeId} {world between later : World} {first : Expr}
  {rest : List Expr} {value : Value} {values : List Value} {stop : Eval.Stop}

theorem evalList_cons (first : Expr) (rest : List Expr) :
    Expr.evalList invoke scope (first :: rest) = (do
      let value ← first.eval invoke scope
      let values ← Expr.evalList invoke scope rest
      return value :: values) := rfl

theorem evalList_cons_of_ok (head : first.eval invoke scope world = .ok value between)
    (tail : Expr.evalList invoke scope rest between = .ok values later) :
    Expr.evalList invoke scope (first :: rest) world = .ok (value :: values) later := by
  rw [evalList_cons, Eval.bind_of_ok head, Eval.bind_of_ok tail]
  rfl

theorem evalList_cons_of_error (head : first.eval invoke scope world = .error stop later)
    (rest : List Expr) :
    Expr.evalList invoke scope (first :: rest) world = .error stop later :=
  Eval.bind_of_error head

theorem evalList_cons_of_rest (head : first.eval invoke scope world = .ok value between)
    (tail : Expr.evalList invoke scope rest between = .error stop later) :
    Expr.evalList invoke scope (first :: rest) world = .error stop later := by
  rw [evalList_cons, Eval.bind_of_ok head, Eval.bind_of_error tail]

theorem length_evalList (ended : Expr.evalList invoke scope rest world = .ok values later) :
    values.length = rest.length := by
  induction rest generalizing values world later with
  | nil =>
      cases ended
      rfl
  | cons expression rest induction =>
      rw [evalList_cons] at ended
      obtain ⟨value, between, -, ended⟩ := Eval.bind_eq_ok_iff.mp ended
      obtain ⟨values, last, evaluated, ended⟩ := Eval.bind_eq_ok_iff.mp ended
      cases ended
      rw [List.length_cons, List.length_cons, induction evaluated]

theorem last_evalList_singleton (expression : Expr) :
    Eval.last (Expr.evalList invoke scope [expression] world) =
      Eval.last (expression.eval invoke scope world) := by
  cases ended : expression.eval invoke scope world with
  | error stop later =>
      rw [evalList_cons_of_error ended]
      rfl
  | ok value later =>
      rw [evalList_cons_of_ok ended rfl]
      rfl

theorem last_evalList_toList (expression : Option Expr) :
    Eval.last (Expr.evalList invoke scope expression.toList world) =
      Eval.last (Expr.evalOption invoke scope expression world) := by
  cases expression with
  | none => rfl
  | some expression => exact last_evalList_singleton expression

/-- Reading a member evaluates its operands in turn and then reads what is there. -/
theorem eval_member_of_ok {object index : Expr} {base place : Value}
    (operands : Expr.evalList invoke scope [object, index] world = .ok [base, place] later) :
    (Expr.member object index).eval invoke scope world =
      Eval.ofExcept (later.heap.member base place) later := by
  rw [evalList_cons] at operands
  obtain ⟨base, reached, first, operands⟩ := Eval.bind_eq_ok_iff.mp operands
  obtain ⟨values, between, others, operands⟩ := Eval.bind_eq_ok_iff.mp operands
  cases operands
  obtain ⟨place, between, second, others⟩ := Eval.bind_eq_ok_iff.mp others
  cases others
  rw [Expr.eval, Eval.bind_of_ok first, Eval.bind_of_ok second]
  rfl

end Expr

/-! ### Assignments to slots -/

/-- Does what is left of an assignment to a slot when its operands have been evaluated. -/
def Eval.storeSlot (scope : ScopeId) (object : Expr) (base index value : Value) : Eval Value :=
  match base, object with
  | .team id, _ => writeElement id index value
  | .text content, .name identifier => writeCharacter scope identifier content index value
  | .text _, _ => fail .notAssignable
  | base, _ => fail (.misuse (.indexed base.kind))

namespace Expr

variable {invoke : Invoke} {scope : ScopeId}

theorem eval_slot (object index value : Expr) :
    (Expr.assign (.member object index) value).eval invoke scope = (do
      let base ← object.eval invoke scope
      let place ← index.eval invoke scope
      let result ← value.eval invoke scope
      Eval.storeSlot scope object base place result) := by
  rw [Expr.eval]
  rfl

/-- An assignment to a slot evaluates its operands in turn.  If none of them fails, it goes on with
their values, and otherwise it fails as the first of them that does. -/
theorem eval_slot_cases (object index value : Expr) (world : World) :
    (∃ base place result between,
      Expr.evalList invoke scope [object, index, value] world = .ok [base, place, result] between ∧
        (Expr.assign (.member object index) value).eval invoke scope world =
          Eval.storeSlot scope object base place result between) ∨
    ∃ stop later,
      Expr.evalList invoke scope [object, index, value] world = .error stop later ∧
        (Expr.assign (.member object index) value).eval invoke scope world =
          .error stop later := by
  rw [eval_slot]
  cases first : object.eval invoke scope world with
  | error stop later =>
      exact .inr ⟨stop, later, evalList_cons_of_error first _, Eval.bind_of_error first⟩
  | ok base reached =>
      rw [Eval.bind_of_ok first]
      cases second : index.eval invoke scope reached with
      | error stop later =>
          exact .inr ⟨stop, later, evalList_cons_of_rest first (evalList_cons_of_error second _),
            Eval.bind_of_error second⟩
      | ok place ready =>
          rw [Eval.bind_of_ok second]
          cases third : value.eval invoke scope ready with
          | error stop later =>
              exact .inr ⟨stop, later, evalList_cons_of_rest first
                (evalList_cons_of_rest second (evalList_cons_of_error third _)),
                Eval.bind_of_error third⟩
          | ok result between =>
              exact .inl ⟨base, place, result, between, evalList_cons_of_ok first
                (evalList_cons_of_ok second (evalList_cons_of_ok third rfl)),
                Eval.bind_of_ok third⟩

end Expr

theorem Value.position_lt {container : Container} {length position : Nat} {index : Value}
    (found : index.position container length = .ok position) : position < length := by
  unfold Value.position at found
  split at found
  · split at found
    · split at found
      · next within =>
          cases found
          exact within
      · cases found
    · cases found
  · cases found

theorem Eval.writeCharacter_apply (scope : ScopeId) (name text : String) (index value : Value)
    (world : World) :
    Eval.writeCharacter scope name text index value world =
      match world.heap.splicedText text index value with
      | .error fault => .error (.error ⟨fault, none⟩) world
      | .ok spliced =>
          match world.heap.assignable scope name with
          | .error fault => .error (.error ⟨fault, none⟩) world
          | .ok owner => .ok value (world.mapHeap (·.write owner name (.text spliced))) := by
  have read : Eval.readHeap (·.splicedText text index value) world =
      .ok (world.heap.splicedText text index value) world := rfl
  rw [Eval.writeCharacter, Eval.bind_of_ok read]
  cases world.heap.splicedText text index value with
  | error fault => rfl
  | ok spliced =>
      show (do let _ ← Eval.assign scope name (.text spliced); return value : Eval Value) world = _
      have assigned := Eval.assign_apply scope name (.text spliced) world
      cases owned : world.heap.assignable scope name with
      | error fault =>
          rw [owned] at assigned
          exact Eval.bind_of_error assigned
      | ok owner =>
          rw [owned] at assigned
          exact Eval.bind_of_ok assigned

section Slots

variable {scope : ScopeId} {object : Expr} {base index value : Value} {world later : World}

/-- An assignment to a slot that fails after its operands have been evaluated changes nothing. -/
theorem Eval.storeSlot_error {stop : Eval.Stop}
    (failed : Eval.storeSlot scope object base index value world = .error stop later) :
    later = world := by
  unfold Eval.storeSlot at failed
  split at failed
  · rw [Eval.writeElement_apply] at failed
    split at failed
    · cases failed
    · cases failed
      rfl
  · rw [Eval.writeCharacter_apply] at failed
    split at failed
    · cases failed
      rfl
    · split at failed
      · cases failed
        rfl
      · cases failed
  · cases failed
    rfl
  · cases failed
    rfl

/-- An assignment to a slot that succeeds wrote to a team or to a text, and then to no team. -/
theorem Eval.storeSlot_ok {result : Value}
    (done : Eval.storeSlot scope object base index value world = .ok result later) :
    result = value ∧
      ((∃ id position, base = .team id ∧
          index.position .team (world.heap.elements id).size = .ok position ∧
          later = world.mapHeap (·.setElement id position value)) ∨
        ∃ text, base = .text text ∧ later.heap.teams = world.heap.teams) := by
  unfold Eval.storeSlot at done
  split at done
  · rw [Eval.writeElement_apply] at done
    split at done
    · next id _ position found =>
        cases done
        exact ⟨rfl, .inl ⟨id, position, rfl, found, rfl⟩⟩
    · cases done
  · rw [Eval.writeCharacter_apply] at done
    split at done
    · cases done
    · split at done
      · cases done
      · cases done
        exact ⟨rfl, .inr ⟨_, rfl, rfl⟩⟩
  · cases done
  · cases done

end Slots

end Avenger
