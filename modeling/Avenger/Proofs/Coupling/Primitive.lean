import Avenger.Proofs.Coupling.Rule

/-!
# Primitive operations of two runs in step

The operations of the evaluator and the native functions, each by the laws of a coupling.
-/

namespace Avenger.Coupling

variable {coupling : Coupling} {stage : coupling.Stage}

section Scopes

theorem lookup (lawful : coupling.Lawful) (name : String) :
    coupling.Coupled stage coupling.Values (Eval.lookup (coupling.left stage) name)
      (Eval.lookup (coupling.right stage) name) := by
  refine Coupled.bind (Coupled.readHeap fun worlds => lawful.lookup worlds name)
    (fun _ => .ofExcept _) ?_
  intro found found' agree
  exact Coupled.ofExcept lawful agree

theorem assign (lawful : coupling.Lawful) (name : String) {value value' : Value}
    (related : coupling.Values value value') :
    coupling.Coupled stage coupling.Values (Eval.assign (coupling.left stage) name value)
      (Eval.assign (coupling.right stage) name value') := by
  intro world world' worlds
  have agree := lawful.assign worlds related name
  rw [Eval.assign_apply, Eval.assign_apply]
  generalize world.heap.assignable (coupling.left stage) name = left at agree
  generalize world'.heap.assignable (coupling.right stage) name = right at agree
  cases agree with
  | ok worlds => exact .ok related worlds
  | error fault => exact .error (fun impossible => nomatch impossible) worlds
  | spared yields _ =>
      refine .spared yields ?_
      rw [lawful.output worlds]
      cases right <;> exact List.prefix_rfl

theorem reserve (lawful : coupling.Lawful) (declaring : coupling.declaring stage)
    (name : String) :
    coupling.Coupled stage (fun _ _ => True) (Eval.reserve (coupling.left stage) name)
      (Eval.reserve (coupling.right stage) name) := by
  refine Coupled.bind (Coupled.readHeap fun worlds => lawful.binds declaring worlds name)
    (fun bound => by cases bound <;> simp) ?_
  intro bound bound' same
  subst same
  cases bound with
  | true => exact Coupled.fail _
  | false => exact Coupled.pure trivial

theorem declare (lawful : coupling.Lawful) (declaring : coupling.declaring stage)
    (name : String) {value value' : Value} (related : coupling.Values value value')
    (constant : Bool) :
    coupling.Coupled stage coupling.Values
      (Eval.declare (coupling.left stage) name value constant)
      (Eval.declare (coupling.right stage) name value' constant) := by
  intro world world' worlds
  have same := lawful.binds declaring worlds name
  rw [Eval.declare_apply, Eval.declare_apply, ← same]
  cases bound : world.heap.binds (coupling.left stage) name with
  | true => exact .error (fun impossible => nomatch impossible) worlds
  | false => exact .ok related (lawful.bind declaring worlds bound related constant)

theorem inBound (lawful : coupling.Lawful) (declaring : coupling.declaring stage) {α β : Type} {results : α → β → Prop}
    {left : ScopeId → Eval α} {right : ScopeId → Eval β} (bindings : List Binding)
    (plain : ∀ binding ∈ bindings, coupling.Values binding.value binding.value)
    (coupled : ∀ inner, coupling.depth inner = coupling.depth stage →
      coupling.declaring inner →
      coupling.Coupled inner results (left (coupling.left inner))
        (right (coupling.right inner))) :
    coupling.Coupled stage results
      (Eval.inScope (fun heap => { heap.childOf (coupling.left stage) with bindings }) left)
      (Eval.inScope (fun heap => { heap.childOf (coupling.right stage) with bindings })
        right) := by
  intro world world' worlds
  obtain ⟨inner, depth, opening⟩ := lawful.child declaring worlds plain
  exact Coupled.inScope opening (coupled inner depth opening.declaring)

theorem inChild (lawful : coupling.Lawful) (declaring : coupling.declaring stage) {α β : Type} {results : α → β → Prop}
    {left : ScopeId → Eval α} {right : ScopeId → Eval β}
    (coupled : ∀ inner, coupling.depth inner = coupling.depth stage →
      coupling.declaring inner →
      coupling.Coupled inner results (left (coupling.left inner))
        (right (coupling.right inner))) :
    coupling.Coupled stage results (Eval.inChild (coupling.left stage) left)
      (Eval.inChild (coupling.right stage) right) :=
  inBound lawful declaring [] (fun _ none => nomatch none) coupled

end Scopes

section Elements

variable {object object' index index' value value' : Value}

theorem position_eq (related : coupling.Values index index') (container : Container)
    (length : Nat) : index.position container length = index'.position container length := by
  cases related <;> rfl

theorem getD_related {values values' : List Value}
    (related : List.Forall₂ coupling.Values values values') (position : Nat) :
    coupling.Values (values[position]?.getD .null) (values'[position]?.getD .null) := by
  induction related generalizing position with
  | nil => exact .null
  | cons head _ induction =>
      cases position with
      | zero => exact head
      | succ position => simpa using induction position

theorem member (lawful : coupling.Lawful) {world world' : World}
    (worlds : coupling.worlds stage world world')
    (objects : coupling.Values object object') (indices : coupling.Values index index') :
    coupling.Agree coupling.Values (world.heap.member object index)
      (world'.heap.member object' index') := by
  cases objects with
  | team related =>
      have elements := lawful.elements worlds related
      have size := elements.length_eq
      simp only [Array.length_toList] at size
      simp only [Heap.member, size, position_eq indices]
      refine (Agree.refl _).bind ?_
      rintro position _ rfl
      have found := getD_related elements position
      simp only [Array.getElem?_toList] at found
      exact .ok found
  | text content =>
      simp only [Heap.member, position_eq indices]
      refine (Agree.refl _).bind ?_
      rintro position _ rfl
      exact .ok (.text _)
  | null | number | boolean | routine | native | stopped => exact .error _

theorem writeElement (lawful : coupling.Lawful) {id id' : TeamId}
    (teams : coupling.teams id id') (indices : coupling.Values index index')
    (related : coupling.Values value value') :
    coupling.Coupled stage coupling.Values (Eval.writeElement id index value)
      (Eval.writeElement id' index' value') := by
  refine Coupled.bind
    (Coupled.readHeap_eq fun worlds => by
      simpa using (lawful.elements worlds teams).length_eq)
    (fun _ => .bind (.ofExcept _) fun position =>
      .bind (.changeHeap fun world => .element world id' position value') (by simp)) ?_
  rintro size _ rfl
  rw [position_eq indices]
  refine Coupled.bind (Coupled.ofExcept lawful (.refl _))
    (fun position =>
      .bind (.changeHeap fun world => .element world id' position value') (by simp)) ?_
  rintro position _ rfl world world' worlds
  exact .ok related (lawful.setElement worlds teams related position)

theorem splicedText_eq (heap heap' : Heap) (text : String)
    (indices : coupling.Values index index') (related : coupling.Values value value') :
    heap.splicedText text index value = heap'.splicedText text index' value' := by
  have replacements : value.replacement heap = value'.replacement heap' := by
    cases related <;> rfl
  simp only [Heap.splicedText, replacements, position_eq indices]

theorem writeCharacter (lawful : coupling.Lawful) (name text : String)
    (indices : coupling.Values index index') (related : coupling.Values value value') :
    coupling.Coupled stage coupling.Values
      (Eval.writeCharacter (coupling.left stage) name text index value)
      (Eval.writeCharacter (coupling.right stage) name text index' value') := by
  refine Coupled.bind
    (Coupled.readHeap_eq fun _ => splicedText_eq _ _ text indices related)
    (fun _ => .bind (.ofExcept _) (by simp)) ?_
  rintro spliced _ rfl
  refine Coupled.bind (Coupled.ofExcept lawful (.refl spliced)) (by simp) ?_
  rintro spliced _ rfl
  exact (assign lawful name (.text spliced)).map fun _ => related

theorem newTeam (lawful : coupling.Lawful) (name : String) (size : Nat)
    {values values' : List Value} (related : List.Forall₂ coupling.Values values values') :
    coupling.Coupled stage coupling.Values (Eval.newTeam (Team.make name size values))
      (Eval.newTeam (Team.make name size values')) := by
  intro world world' worlds
  have elements : List.Forall₂ coupling.Values (Team.make name size values).elements.toList
      (Team.make name size values').elements.toList := by
    simp only [Team.make, Array.toList_append, Array.toList_replicate, related.length_eq]
    exact List.rel_append related
      (List.forall₂_same.mpr fun element member => by
        rw [List.eq_of_mem_replicate member]
        exact .number 0)
  obtain ⟨teams, worlds⟩ := lawful.newTeam worlds elements name
  exact .ok (.team teams) worlds

theorem newRoutine (lawful : coupling.Lawful) (declaring : coupling.declaring stage)
    (name : String) (parameters : List String) (body : List Stmt) :
    coupling.Coupled stage coupling.Values
      (Eval.newRoutine { name, parameters, body, closure := coupling.left stage })
      (Eval.newRoutine { name, parameters, body, closure := coupling.right stage }) := by
  intro world world' worlds
  obtain ⟨routines, worlds⟩ := lawful.newRoutine declaring worlds name parameters body
  exact .ok (.routine routines) worlds

end Elements

section Operators

variable {left left' right right' : Value}

theorem repetition {limits limits' : Limits} (turns : coupling.Turns limits limits')
    (text : String) (count : Float) :
    coupling.Agree coupling.Values (Value.repetition text count limits.iterations)
      (Value.repetition text count limits'.iterations) := by
  simp only [Value.repetition]
  split
  · next exceeded =>
      cases turns with
      | inl same =>
          rw [← same, if_pos exceeded]
          exact .error _
      | inr larger => exact .spared larger.2 _
  · next within =>
      have within' : ¬ Number.ofNat limits'.iterations < Value.copies count := by
        intro exceeded
        apply within
        cases turns with
        | inl same => rwa [same]
        | inr larger => exact Number.ofNat_lt_of_le (Nat.le_of_lt larger.1) exceeded
      rw [if_neg within']
      exact .ok (.text _)

theorem arithmetic {limits limits' : Limits} (turns : coupling.Turns limits limits')
    (operator : Arithmetic) (lefts : coupling.Values left left')
    (rights : coupling.Values right right') :
    coupling.Agree coupling.Values (Value.arithmetic operator limits.iterations left right)
      (Value.arithmetic operator limits'.iterations left' right') := by
  cases lefts with
  | number value =>
      cases rights with
      | number => exact .ok (.number _)
      | text content =>
          cases operator with
          | multiply => exact repetition turns content value
          | _ => exact .ok (.text _)
      | _ => exact .ok .null
  | text content =>
      cases rights with
      | number value =>
          cases operator with
          | multiply => exact repetition turns content value
          | _ => exact .ok (.text _)
      | text => exact .ok (.text _)
      | _ => exact .ok .null
  | _ => cases rights <;> exact .ok .null

theorem compare (operator : Comparison) (lefts : coupling.Values left left')
    (rights : coupling.Values right right') :
    coupling.Values (Value.compare operator left right)
      (Value.compare operator left' right') := by
  cases lefts with
  | number => cases rights <;> first | exact .boolean _ | exact .null
  | text => cases rights <;> first | exact .boolean _ | exact .null
  | _ => cases rights <;> exact .null

theorem connect (operator : Connective) (lefts : coupling.Values left left')
    (rights : coupling.Values right right') :
    coupling.Values (Value.connect operator left right)
      (Value.connect operator left' right') := by
  cases lefts with
  | boolean => cases rights <;> first | exact .boolean _ | exact .null
  | _ => cases rights <;> exact .null

theorem not (lefts : coupling.Values left left') :
    coupling.Values left.not left'.not := by
  cases lefts with
  | boolean value => exact .boolean _
  | _ => exact .null

theorem minus (lefts : coupling.Values left left') :
    coupling.Agree coupling.Values left.minus left'.minus := by
  cases lefts with
  | number value => exact .ok (.number _)
  | _ => exact .error _

end Operators

section Natives

variable {arguments arguments' : List Value}

theorem numberAt_eq (related : List.Forall₂ coupling.Values arguments arguments')
    (function : Native) (position : Nat) :
    Native.numberAt function arguments position =
      Native.numberAt function arguments' position := by
  have found := getD_related related position
  unfold Native.numberAt Native.argument
  generalize arguments[position]?.getD .null = argument at found
  generalize arguments'[position]?.getD .null = argument' at found
  cases found <;> rfl

theorem textAt_eq (related : List.Forall₂ coupling.Values arguments arguments')
    (function : Native) (position : Nat) :
    Native.textAt function arguments position =
      Native.textAt function arguments' position := by
  have found := getD_related related position
  unfold Native.textAt Native.argument
  generalize arguments[position]?.getD .null = argument at found
  generalize arguments'[position]?.getD .null = argument' at found
  cases found <;> rfl

/-- The text of a value that is no team names no place. -/
theorem valueText_eq (lawful : coupling.Lawful) {world world' : World}
    (worlds : coupling.worlds stage world world') {value value' : Value}
    (related : coupling.Values value value') (plain : value.kind ≠ .team) :
    world.heap.valueText value = world'.heap.valueText value' := by
  cases related with
  | team => exact absurd rfl plain
  | routine routines =>
      have found := lawful.routine worlds routines
      simp only [Heap.valueText, Heap.plainValueText]
      generalize world.heap.routine? _ = left at found
      generalize world'.heap.routine? _ = right at found
      cases found with
      | none => rfl
      | some code => simp [code.name]
  | _ => rfl

theorem print (lawful : coupling.Lawful) (line : String) :
    coupling.Coupled stage (fun _ _ => True) (Eval.print line) (Eval.print line) :=
  fun _ _ worlds => .ok trivial (lawful.print worlds line)

theorem readClock (lawful : coupling.Lawful) :
    coupling.Coupled stage (· = ·) Eval.readClock Eval.readClock :=
  fun _ _ worlds => .ok (lawful.clock worlds).1 (lawful.clock worlds).2

theorem readChance (lawful : coupling.Lawful) :
    coupling.Coupled stage (· = ·) Eval.readChance Eval.readChance :=
  fun _ _ worlds => .ok (lawful.chance worlds).1 (lawful.chance worlds).2

theorem printAll (lawful : coupling.Lawful)
    (related : List.Forall₂ coupling.Values arguments arguments') :
    coupling.Coupled stage (fun _ _ => True) (Native.printAll arguments)
      (Native.printAll arguments') := by
  induction related with
  | nil => exact .pure trivial
  | @cons value value' values values' head _ induction =>
      have printed : value.kind ≠ .team → coupling.Coupled stage (fun _ _ => True)
          (do Eval.print (← Eval.readHeap (·.valueText value)); Native.printAll values)
          (do Eval.print (← Eval.readHeap (·.valueText value')); Native.printAll values') := by
        intro plain
        refine Coupled.bind
          (Coupled.readHeap_eq fun worlds => valueText_eq lawful worlds head plain)
          (fun line => .bind (.print line) (by simp)) ?_
        rintro line _ rfl
        refine (print lawful line).bind (by simp) ?_
        intro _ _ _
        exact induction
      cases head with
      | team => exact .fail _
      | _ => exact printed (by simp [Value.kind])

theorem test (lawful : coupling.Lawful) {actual actual' expected expected' : Value}
    (actuals : coupling.Values actual actual')
    (expecteds : coupling.Values expected expected') :
    coupling.Coupled stage coupling.Values (Native.test actual expected)
      (Native.test actual' expected') := by
  unfold Native.test
  rw [actuals.kind_eq, expecteds.kind_eq]
  split
  · exact .fail _
  · next kinds =>
      split
      · exact .fail _
      · next plain =>
          have plain : actual.kind ∈ [Value.Kind.number, .text, .boolean] := by
            rw [actuals.kind_eq]
            exact Decidable.not_not.mp plain
          have plain' : expected.kind ∈ [Value.Kind.number, .text, .boolean] := by
            rw [expecteds.kind_eq, ← Decidable.not_not.mp kinds, ← actuals.kind_eq]
            exact plain
          have notTeam : ∀ {value : Value},
              value.kind ∈ [Value.Kind.number, .text, .boolean] → value.kind ≠ .team := by
            intro value member equality
            rw [equality] at member
            simp at member
          rw [actuals.same_eq expecteds plain]
          split
          · intro world world' worlds
            show coupling.Outcome stage coupling.Values
              (Eval.fail (.testFailed (world.heap.valueText expected)
                (world.heap.valueText actual)) world)
              (Eval.fail (.testFailed (world'.heap.valueText expected')
                (world'.heap.valueText actual')) world')
            rw [valueText_eq lawful worlds actuals (notTeam plain),
              valueText_eq lawful worlds expecteds (notTeam plain')]
            exact Coupled.fail _ _ _ worlds
          · refine (print lawful _).bind (by simp) ?_
            intro _ _ _
            exact .pure (.boolean true)

theorem length (lawful : coupling.Lawful) {world world' : World}
    (worlds : coupling.worlds stage world world') {value value' : Value}
    (related : coupling.Values value value') :
    coupling.Agree coupling.Values (Native.length world.heap value)
      (Native.length world'.heap value') := by
  cases related with
  | team teams =>
      have sizes : ∀ (heap : Heap) (id : TeamId),
          ((heap.team? id).map (·.elements.size)).getD 0 = (heap.elements id).size := by
        intro heap id
        unfold Heap.elements
        cases heap.team? id <;> rfl
      have elements := (lawful.elements worlds teams).length_eq
      simp only [Array.length_toList] at elements
      simp only [Native.length, sizes, elements]
      exact .ok (.number _)
  | text => exact .ok (.number _)
  | _ => exact .error _

/-- A native function that gives a number or a text gives the same one in both runs. -/
theorem pureResult (lawful : coupling.Lawful) {world world' : World}
    (worlds : coupling.worlds stage world world') (function : Native)
    (related : List.Forall₂ coupling.Values arguments arguments') :
    coupling.Agree coupling.Values (function.pureResult world.heap arguments)
      (function.pureResult world'.heap arguments') := by
  have argument : ∀ position, coupling.Values (Native.argument arguments position)
      (Native.argument arguments' position) := getD_related related
  unfold Native.pureResult
  simp only [numberAt_eq related, textAt_eq related, related.length_eq]
  split
  · have kinds : Native.kindText (Native.argument arguments 0) =
        Native.kindText (Native.argument arguments' 0) := by
      have first := argument 0
      generalize Native.argument arguments 0 = left at first
      generalize Native.argument arguments' 0 = right at first
      cases first <;> rfl
    rw [kinds]
    exact .ok (.text _)
  · exact length lawful worlds (argument 0)
  · exact .after fun whole => .after fun index => .ok (.text _)
  · refine .after fun first => .after fun second => ?_
    split
    · exact .after fun delimiter => .ok (.text _)
    · exact .ok (.text _)
  · exact .after fun content => .ok (.text _)
  · exact .after fun content => .ok (.text _)
  · exact .after fun content => .ok (.text _)
  · refine .after fun whole => .after fun part => ?_
    split
    · exact .after fun start => .ok (.number _)
    · exact .ok (.number _)
  · exact .after fun whole => .after fun first => .after fun second => .ok (.text _)
  · refine .after fun digits => ?_
    split
    · exact .after fun base => .ok (.number _)
    · exact .ok (.number _)
  · split
    · exact .after fun number => .ok (.number _)
    · exact .after fun first => .after fun second => .ok (.number _)
    · exact .ok .null

theorem native (lawful : coupling.Lawful) (function : Native)
    (related : List.Forall₂ coupling.Values arguments arguments') :
    coupling.Coupled stage coupling.Values (function.apply arguments)
      (function.apply arguments') := by
  have argument : ∀ position, coupling.Values (Native.argument arguments position)
      (Native.argument arguments' position) := getD_related related
  have empty : arguments.isEmpty = arguments'.isEmpty := by
    cases related <;> rfl
  unfold Native.apply
  rw [related.length_eq]
  refine Coupled.check fun _ => ?_
  split
  · unfold Native.printValues
    rw [empty]
    split
    · exact (print lawful "").map fun _ => .null
    · exact (printAll lawful related).map fun _ => .null
  · exact test lawful (argument 0) (argument 1)
  · refine (readClock lawful).map ?_
    rintro reading _ rfl
    exact .number reading
  · refine (readChance lawful).map ?_
    rintro reading _ rfl
    exact .number reading
  · refine Coupled.bind (Coupled.readHeap fun worlds =>
      pureResult lawful worlds function related) (fun result => .ofExcept result) ?_
    intro result result' agree
    exact .ofExcept lawful agree

end Natives

end Avenger.Coupling
