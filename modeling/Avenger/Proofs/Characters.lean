import Avenger.Proofs.Constants
import Avenger.Proofs.Operands

/-!
# Characters of texts

Texts are not shared: an assignment to a character of a text gives the variable another text.
That text is made of the one that the variable held before the index and the value were evaluated,
so what these have assigned to the variable meanwhile is lost wherever it differs from the text
that was read first, except at the character that is replaced.
-/

namespace Avenger

/-! ### Texts with a character replaced -/

/-- Two texts with the same character replaced are the same if the texts agree elsewhere. -/
theorem Text.splice_eq_iff {first : List Char} {position : Nat} (within : position < first.length)
    (second replacement : List Char) :
    splice second position replacement = splice first position replacement ↔
      second.take position = first.take position ∧
        second.drop (position + 1) = first.drop (position + 1) := by
  have head : (first.take position).length = position := by
    rw [List.length_take]
    omega
  constructor
  · intro same
    have reaches : position ≤ second.length := by
      have lengths := congrArg List.length same
      simp only [splice, List.length_append, List.length_take, List.length_drop] at lengths
      omega
    have head' : (second.take position).length = position := by
      rw [List.length_take]
      omega
    obtain ⟨before, rest⟩ := List.append_inj same (head'.trans head.symm)
    exact ⟨before, List.append_cancel_left rest⟩
  · rintro ⟨before, after⟩
    rw [splice, before, after, splice]

namespace Heap

variable {heap : Heap}

theorem splicedText_eq_ok {text spliced : String} {index value : Value}
    (made : heap.splicedText text index value = .ok spliced) :
    ∃ position replacement, index.position .text text.toList.length = .ok position ∧
      value.replacement heap = .ok replacement ∧
      spliced = String.ofList (Text.splice text.toList position replacement) := by
  simp only [splicedText] at made
  cases placed : index.position .text text.toList.length with
  | error fault =>
      rw [placed] at made
      cases made
  | ok position =>
      cases replaced : value.replacement heap with
      | error fault =>
          rw [placed, replaced] at made
          cases made
      | ok replacement =>
          rw [placed, replaced] at made
          cases made
          exact ⟨position, replacement, rfl, rfl, rfl⟩

/-- A name reads as what has been written to it in its owner. -/
theorem lookup_write {name : String} {scope owner : ScopeId} {binding : Binding}
    (resolved : heap.resolve? name scope = some (owner, binding)) (value : Value) :
    (heap.write owner name value).lookup scope name = .ok value := by
  obtain ⟨binding', resolved', -⟩ := resolve?_of_outlines
    (fun found => (outline?_write heap owner name value _).trans found) resolved
  have written := binding?_of_resolve? resolved'
  rw [binding?_write, if_pos ⟨rfl, rfl⟩, binding?_of_resolve? resolved] at written
  cases written
  rw [lookup, resolved']

end Heap

/-! ### Assignments to characters -/

/-- What an assignment to a character of a text does that has read the text `held`, when its index
and its value have been evaluated: the variable gets that text with the character replaced, and no
other binding changes. -/
structure World.CharacterWritten (before later : World) (scope : ScopeId) (name held : String)
    (place value : Value) (position : Nat) (replacement : List Char) : Prop where
  placed : place.position .text held.toList.length = .ok position
  replaced : value.replacement before.heap = .ok replacement
  rebound : later.heap.lookup scope name =
    .ok (.text (String.ofList (Text.splice held.toList position replacement)))
  elsewhere : ∃ owner, before.heap.owner? scope name = some owner ∧ ∀ other read,
    ¬(other = owner ∧ read = name) →
      later.heap.binding? other read = before.heap.binding? other read
  /-- The assignment keeps what the variable held right before it if that is, apart from the
  character, the text that has been read, and not otherwise. -/
  keeps : ∀ current : String,
    later.heap.lookup scope name =
        .ok (.text (String.ofList (Text.splice current.toList position replacement))) ↔
      current.toList.take position = held.toList.take position ∧
        current.toList.drop (position + 1) = held.toList.drop (position + 1)

theorem World.characterWritten {world later : World} {scope : ScopeId} {name held : String}
    {place value result : Value}
    (done : Eval.writeCharacter scope name held place value world = .ok result later) :
    result = value ∧ ∃ position replacement,
      world.CharacterWritten later scope name held place value position replacement := by
  rw [Eval.writeCharacter_apply] at done
  split at done
  · cases done
  · next spliced made =>
      split at done
      · cases done
      · next owner allowed =>
          cases done
          obtain ⟨position, replacement, placed, replaced, rfl⟩ := Heap.splicedText_eq_ok made
          obtain ⟨binding, resolved, -⟩ := Heap.assignable_eq_ok allowed
          have rebound := Heap.lookup_write resolved
            (.text (String.ofList (Text.splice held.toList position replacement)))
          refine ⟨rfl, position, replacement, placed, replaced, rebound, ⟨owner, ?_, ?_⟩, ?_⟩
          · rw [Heap.owner?, resolved]
            rfl
          · intro other read apart
            rw [World.mapHeap_heap, Heap.binding?_write,
              if_neg fun both => apart ⟨both.1.symm, both.2.symm⟩]
          · intro current
            rw [← Text.splice_eq_iff (Value.position_lt placed) _ replacement, World.mapHeap_heap,
              rebound]
            simp [String.ofList_inj, eq_comm]

/-- That an assignment to a character loses no update: if the variable holds a text right before
the assignment, when the index and the value have been evaluated, then it holds that text with the
character replaced afterwards. -/
def Expr.KeepsUpdates (invoke : Invoke) (scope : ScopeId) (name : String) (index value : Expr)
    (world : World) : Prop :=
  ∀ held current place given result between later position replacement,
    Expr.evalList invoke scope [.name name, index, value] world =
        .ok [.text held, place, given] between →
    (Expr.assign (.member (.name name) index) value).eval invoke scope world = .ok result later →
    between.heap.lookup scope name = .ok (.text current) →
    place.position .text current.toList.length = .ok position →
    given.replacement between.heap = .ok replacement →
      later.heap.lookup scope name =
        .ok (.text (String.ofList (Text.splice current.toList position replacement)))

theorem Eval.lookup_eq_ok {scope : ScopeId} {name : String} {value : Value} {world later : World}
    (looked : Eval.lookup scope name world = .ok value later) :
    world.heap.lookup scope name = .ok value := by
  have read : Eval.lookup scope name world =
      Eval.ofExcept (world.heap.lookup scope name) world := rfl
  exact (Eval.ofExcept_eq_ok_iff.mp (read.symm.trans looked)).1

/-- An assignment to a character of a text reads the variable first, then evaluates the index and
the value, and then gives the variable the text that it read first with the character replaced. -/
theorem character_assignment_rebinds (budget : Nat) (scope : ScopeId) (name : String)
    (index value : Expr) (world between later : World) (held : String)
    (place given result : Value)
    (operands : Expr.evalList (invokeWithin budget) scope [.name name, index, value] world =
      .ok [.text held, place, given] between)
    (done : (Expr.assign (.member (.name name) index) value).eval (invokeWithin budget) scope
      world = .ok result later) :
    world.heap.lookup scope name = .ok (.text held) ∧ result = given ∧
      ∃ position replacement,
        between.CharacterWritten later scope name held place given position replacement := by
  have first : world.heap.lookup scope name = .ok (.text held) := by
    obtain ⟨value, reached, looked, rest⟩ := Eval.bind_eq_ok_iff.mp operands
    obtain ⟨values, last, -, ended⟩ := Eval.bind_eq_ok_iff.mp rest
    cases ended
    exact Eval.lookup_eq_ok looked
  rcases Expr.eval_slot_cases (.name name) index value world with
    ⟨_, _, _, _, evaluated, rest⟩ | ⟨stop, last, failed, -⟩
  · cases operands.symm.trans evaluated
    exact ⟨first, World.characterWritten (rest.symm.trans done)⟩
  · cases operands.symm.trans failed

/-! ### An update that is lost -/

/-- A world with a variable that holds a text. -/
def World.lettered (text : String) : World :=
  (Session.opened .standard (Readings.seeded 0 0)).mapHeap (·.bind ⟨0⟩ ⟨"x", .text text, false⟩)

/-- The assignment of a letter to the last of three characters of the variable. -/
def Expr.lastLetter : Expr := .assign (.member (.name "x") (.number 2)) (.text "z")

namespace World

variable {invoke : Invoke}

theorem lettered_resolved (text : String) : (lettered text).heap.resolve? "x" ⟨0⟩ =
    some (⟨0⟩, ⟨"x", .text text, false⟩) := by
  rw [Heap.resolve?]
  rfl

theorem lettered_name (text : String) :
    (Expr.name "x").eval invoke ⟨0⟩ (lettered text) = .ok (.text text) (lettered text) := by
  rw [Expr.eval]
  exact Eval.lookup_of_resolve? (lettered_resolved text)

/-- The variable gets what the text that was read first is spliced to, whatever it holds. -/
theorem lettered_writeCharacter (current : String) {held spliced : String} {place value : Value}
    (made : (lettered current).heap.splicedText held place value = .ok spliced) :
    Eval.writeCharacter ⟨0⟩ "x" held place value (lettered current) =
      .ok value (lettered spliced) := by
  have allowed : (lettered current).heap.assignable ⟨0⟩ "x" = .ok ⟨0⟩ := by
    rw [Heap.assignable, lettered_resolved]
    rfl
  simp only [Eval.writeCharacter_apply, made, allowed]
  rfl

theorem lastLetter_eval :
    Expr.lastLetter.eval invoke ⟨0⟩ (lettered "abc") = .ok (.text "z") (lettered "abz") := by
  have made : (lettered "abc").heap.splicedText "abc" (.number 2) (.text "z") = .ok "abz" := rfl
  rw [Expr.lastLetter, Expr.eval_slot, Eval.bind_of_ok (lettered_name "abc")]
  exact lettered_writeCharacter "abc" made

/-- The last letter has been written when the middle one is, and is lost. -/
theorem middleLetter_eval :
    Expr.evalList invoke ⟨0⟩ [.name "x", .number 1, Expr.lastLetter] (lettered "abc") =
        .ok [.text "abc", .number 1, .text "z"] (lettered "abz") ∧
      (Expr.assign (.member (.name "x") (.number 1)) Expr.lastLetter).eval invoke ⟨0⟩
        (lettered "abc") = .ok (.text "z") (lettered "azc") := by
  have made : (lettered "abz").heap.splicedText "abc" (.number 1) (.text "z") = .ok "azc" := rfl
  constructor
  · exact Expr.evalList_cons_of_ok (lettered_name "abc") (Expr.evalList_cons_of_ok rfl
      (Expr.evalList_cons_of_ok lastLetter_eval rfl))
  · rw [Expr.eval_slot, Eval.bind_of_ok (lettered_name "abc")]
    refine (Eval.bind_of_ok rfl).trans ((Eval.bind_of_ok lastLetter_eval).trans ?_)
    exact lettered_writeCharacter "abz" made

end World

/-- The last letter is lost by an assignment to the middle one whose value writes it. -/
theorem character_assignment_rebinds_stale :
    ∃ position replacement,
      (World.lettered "abz").CharacterWritten (World.lettered "azc") ⟨0⟩ "x" "abc" (.number 1)
        (.text "z") position replacement := by
  obtain ⟨operands, done⟩ := @World.middleLetter_eval (invokeWithin 1)
  obtain ⟨-, -, written⟩ := character_assignment_rebinds 1 ⟨0⟩ "x" (.number 1) Expr.lastLetter
    (World.lettered "abc") (World.lettered "abz") (World.lettered "azc") "abc" (.number 1)
    (.text "z") (.text "z") operands done
  exact written

/-- It is not so that an assignment to a character of a text loses no update. -/
theorem character_assignment_loses_update :
    ¬Expr.KeepsUpdates (invokeWithin 1) ⟨0⟩ "x" (.number 1) Expr.lastLetter
      (World.lettered "abc") := by
  intro keeps
  obtain ⟨operands, done⟩ := @World.middleLetter_eval (invokeWithin 1)
  have held : (World.lettered "abz").heap.lookup ⟨0⟩ "x" = .ok (.text "abz") := by
    rw [Heap.lookup, World.lettered_resolved]
  have left : (World.lettered "azc").heap.lookup ⟨0⟩ "x" = .ok (.text "azc") := by
    rw [Heap.lookup, World.lettered_resolved]
  have wanted := keeps "abc" "abz" (.number 1) (.text "z") (.text "z") (World.lettered "abz")
    (World.lettered "azc") 1 ['z'] operands done held rfl rfl
  rw [left] at wanted
  have same : "azc" = String.ofList (Text.splice "abz".toList 1 ['z']) :=
    Value.text.inj (Except.ok.inj wanted)
  exact absurd same (by decide)

end Avenger
