import Avenger.Proofs.Coupling
import Avenger.Proofs.Rounding

/-!
# Rules for two runs in step

One rule for each way to combine runs and for each primitive operation.  All of them follow
from the laws of a coupling.
-/

namespace Avenger.Coupling

variable {coupling : Coupling} {stage : coupling.Stage} {α β γ δ : Type}

/-- How two runs have ended. -/
inductive Outcome (coupling : Coupling) (stage : coupling.Stage) {α β : Type}
    (results : α → β → Prop) :
    EStateM.Result Eval.Stop World α → EStateM.Result Eval.Stop World β → Prop where
  | ok {left : α} {right : β} {world world' : World} (related : results left right)
      (worlds : coupling.worlds stage world world') :
      Outcome coupling stage results (.ok left world) (.ok right world')
  | error {stop : Eval.Stop} {world world' : World}
      (possible : stop = .outOfBudget → coupling.exhaustible)
      (worlds : coupling.worlds stage world world') :
      Outcome coupling stage results (.error stop world) (.error stop world')
  | spared {fault : Fault} {line : Option Nat} {world : World}
      {right : EStateM.Result Eval.Stop World β} (yields : coupling.yields fault)
      (printed : world.output.toList <+: (Eval.last right).output.toList) :
      Outcome coupling stage results (.error (.error ⟨fault, line⟩) world) right

/-- Two runs that keep related worlds related and end alike. -/
def Coupled (coupling : Coupling) (stage : coupling.Stage) (results : α → β → Prop)
    (left : Eval α) (right : Eval β) : Prop :=
  ∀ world world', coupling.worlds stage world world' →
    coupling.Outcome stage results (left world) (right world')

namespace Values

variable {left right left' right' : Value}

theorem kind_eq (related : coupling.Values left right) : left.kind = right.kind := by
  cases related <;> rfl

theorem truth_eq (related : coupling.Values left right) : left.truth? = right.truth? := by
  cases related <;> rfl

/-- Values of the kinds that are compared by what they are compare alike. -/
theorem same_eq (related : coupling.Values left right)
    (related' : coupling.Values left' right')
    (plain : left.kind ∈ [Value.Kind.number, .text, .boolean]) :
    left.same left' = right.same right' := by
  cases related with
  | number | text | boolean => cases related' <;> rfl
  | null | team | routine | native | stopped => simp [Value.kind] at plain

end Values

namespace Agree

theorem refl (result : Except Fault α) : coupling.Agree (· = ·) result result := by
  cases result with
  | ok result => exact .ok rfl
  | error fault => exact .error fault

theorem bind {results : α → β → Prop} {later : γ → δ → Prop}
    {left : Except Fault α} {right : Except Fault β}
    {left' : α → Except Fault γ} {right' : β → Except Fault δ}
    (first : coupling.Agree results left right)
    (second : ∀ {result result'}, results result result' →
      coupling.Agree later (left' result) (right' result')) :
    coupling.Agree later (left >>= left') (right >>= right') := by
  cases first with
  | ok related => exact second related
  | error fault => exact .error fault
  | spared yields _ => exact .spared yields _

/-- Going on from the same check. -/
theorem after {check : Except Fault α} {results : γ → δ → Prop}
    {left : α → Except Fault γ} {right : α → Except Fault δ}
    (second : ∀ result, coupling.Agree results (left result) (right result)) :
    coupling.Agree results (check >>= left) (check >>= right) := by
  refine (refl check).bind ?_
  rintro result _ rfl
  exact second result

theorem mono {results later : α → β → Prop} {left : Except Fault α}
    {right : Except Fault β} (agree : coupling.Agree results left right)
    (implies : ∀ {result result'}, results result result' → later result result') :
    coupling.Agree later left right := by
  cases agree with
  | ok related => exact .ok (implies related)
  | error fault => exact .error fault
  | spared yields right => exact .spared yields right

end Agree

theorem Outcome.bind {results : α → β → Prop} {later : γ → δ → Prop} {left : Eval α}
    {right : Eval β} {left' : α → Eval γ} {right' : β → Eval δ} {world world' : World}
    (ended : coupling.Outcome stage results (left world) (right world'))
    (gradual : ∀ result, (right' result).Gradual)
    (second : ∀ {result result'}, results result result' →
      coupling.Coupled stage later (left' result) (right' result')) :
    coupling.Outcome stage later ((left >>= left') world) ((right >>= right') world') := by
  generalize leftEnded : left world = leftEnd at ended
  generalize rightEnded : right world' = rightEnd at ended
  cases ended with
  | ok related worlds =>
      rw [Eval.bind_of_ok leftEnded, Eval.bind_of_ok rightEnded]
      exact second related _ _ worlds
  | error possible worlds =>
      rw [Eval.bind_of_error leftEnded, Eval.bind_of_error rightEnded]
      exact .error possible worlds
  | spared yields printed =>
      rw [Eval.bind_of_error leftEnded]
      refine .spared yields (printed.trans ?_)
      cases rightEnd with
      | ok result later =>
          rw [Eval.bind_of_ok rightEnded]
          exact (gradual result later).keeps_output
      | error stop later =>
          rw [Eval.bind_of_error rightEnded]
          exact List.prefix_rfl

namespace Coupled

variable {results : α → β → Prop} {later : γ → δ → Prop}

theorem pure {left : α} {right : β} (related : results left right) :
    coupling.Coupled stage results (Pure.pure left) (Pure.pure right) :=
  fun _ _ worlds => .ok related worlds

theorem fail (fault : Fault) :
    coupling.Coupled stage results (Eval.fail fault) (Eval.fail fault) :=
  fun _ _ worlds => .error (fun impossible => nomatch impossible) worlds

theorem outOfBudget (possible : coupling.exhaustible) :
    coupling.Coupled stage results Eval.outOfBudget Eval.outOfBudget :=
  fun _ _ worlds => .error (fun _ => possible) worlds

theorem spared (lawful : coupling.Lawful) {fault : Fault} (yields : coupling.yields fault)
    {right : Eval β} (gradual : right.Gradual) :
    coupling.Coupled stage results (Eval.fail fault) right := by
  intro world world' worlds
  have printed := (gradual world').keeps_output
  rw [← lawful.output worlds] at printed
  exact .spared yields printed

theorem ofExcept (lawful : coupling.Lawful) {left : Except Fault α}
    {right : Except Fault β} (agree : coupling.Agree results left right) :
    coupling.Coupled stage results (Eval.ofExcept left) (Eval.ofExcept right) := by
  cases agree with
  | ok related => exact pure related
  | error fault => exact fail fault
  | spared yields right => exact spared lawful yields (.ofExcept right)

theorem bind {left : Eval α} {right : Eval β} {left' : α → Eval γ} {right' : β → Eval δ}
    (first : coupling.Coupled stage results left right)
    (gradual : ∀ result, (right' result).Gradual)
    (second : ∀ {result result'}, results result result' →
      coupling.Coupled stage later (left' result) (right' result')) :
    coupling.Coupled stage later (left >>= left') (right >>= right') :=
  fun world world' worlds => (first world world' worlds).bind gradual second

/-- Going on from the same check. -/
theorem check {result : Except Fault α} {left : α → Eval γ} {right : α → Eval δ}
    (second : ∀ result, coupling.Coupled stage later (left result) (right result)) :
    coupling.Coupled stage later (Eval.ofExcept result >>= left)
      (Eval.ofExcept result >>= right) := by
  cases result with
  | ok result => exact second result
  | error fault => exact fail fault

theorem map {left : Eval α} {right : Eval β} {read : α → γ} {read' : β → δ}
    (coupled : coupling.Coupled stage results left right)
    (related : ∀ {result result'}, results result result' →
      later (read result) (read' result')) :
    coupling.Coupled stage later (left >>= fun result => Pure.pure (read result))
      (right >>= fun result => Pure.pure (read' result)) :=
  coupled.bind (fun _ => .pure _) fun results => pure (related results)

/-- Two ways to go on from a test that has the same outcome in both runs. -/
theorem branch {test test' : Eval Bool} {yes no : Eval γ} {yes' no' : Eval δ}
    (tests : coupling.Coupled stage (· = ·) test test') (yesGradual : yes'.Gradual)
    (noGradual : no'.Gradual) (yesCoupled : coupling.Coupled stage later yes yes')
    (noCoupled : coupling.Coupled stage later no no') :
    coupling.Coupled stage later (do if ← test then yes else no)
      (do if ← test' then yes' else no') := by
  refine tests.bind (fun holds => by cases holds <;> assumption) ?_
  rintro holds _ rfl
  cases holds with
  | true => exact yesCoupled
  | false => exact noCoupled

theorem readHeap {read : Heap → α} {read' : Heap → β}
    (related : ∀ {world world'}, coupling.worlds stage world world' →
      results (read world.heap) (read' world'.heap)) :
    coupling.Coupled stage results (Eval.readHeap read) (Eval.readHeap read') :=
  fun _ _ worlds => .ok (related worlds) worlds

theorem readHeap_eq {read read' : Heap → α}
    (same : ∀ {world world'}, coupling.worlds stage world world' →
      read world.heap = read' world'.heap) :
    coupling.Coupled stage (· = ·) (Eval.readHeap read) (Eval.readHeap read') :=
  readHeap same

theorem atLine {left : Eval α} {right : Eval β} (line : Nat)
    (coupled : coupling.Coupled stage results left right) :
    coupling.Coupled stage results (Eval.atLine line left) (Eval.atLine line right) := by
  intro world world' worlds
  have ended := coupled world world' worlds
  unfold Eval.atLine
  generalize left world = leftEnd at ended
  generalize right world' = rightEnd at ended
  cases ended with
  | ok related worlds => exact .ok related worlds
  | @error stop _ _ possible worlds =>
      cases stop with
      | error error => exact .error (fun impossible => nomatch impossible) worlds
      | outOfBudget => exact .error possible worlds
  | spared yields printed =>
      refine .spared yields (printed.trans ?_)
      cases rightEnd with
      | ok result later => exact List.prefix_rfl
      | error stop later => cases stop <;> exact List.prefix_rfl

/-- Two runs in new scopes, when the step into these and out of them keeps the worlds
related. -/
theorem inScope {inner : coupling.Stage} {make make' : Heap → Scope}
    {left : ScopeId → Eval α} {right : ScopeId → Eval β} {world world' : World}
    (opening : coupling.Opening stage inner world world' (make world.heap)
      (make' world'.heap))
    (coupled : coupling.Coupled inner results (left (coupling.left inner))
      (right (coupling.right inner))) :
    coupling.Outcome stage results (Eval.inScope make left world)
      (Eval.inScope make' right world') := by
  have ended := coupled _ _ opening.opened
  rw [opening.left, opening.right] at ended
  generalize leftEnded : left world.heap.nextScope _ = leftEnd at ended
  generalize rightEnded : right world'.heap.nextScope _ = rightEnd at ended
  cases ended with
  | ok related worlds =>
      rw [Eval.inScope_of_ok leftEnded, Eval.inScope_of_ok rightEnded]
      exact .ok related (opening.closed worlds)
  | error possible worlds =>
      rw [Eval.inScope_of_error leftEnded, Eval.inScope_of_error rightEnded]
      exact .error possible (opening.closed worlds)
  | spared yields printed =>
      rw [Eval.inScope_of_error leftEnded]
      refine .spared yields ?_
      rw [World.endScope_output]
      refine printed.trans ?_
      cases rightEnd with
      | ok result later =>
          rw [Eval.inScope_of_ok rightEnded]
          simp [Eval.last]
      | error stop later =>
          rw [Eval.inScope_of_error rightEnded]
          simp [Eval.last]

end Coupled

end Avenger.Coupling
