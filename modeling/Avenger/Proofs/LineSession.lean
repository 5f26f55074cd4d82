import Avenger.Proofs.Failing
import Avenger.Proofs.InputLines

/-!
# Sessions of lines

Without arguments the program is one session of the lines that it reads, up to a line that ends
it.  It answers every line after a prompt, and a line that fails leaves behind what it has done by
then, for the lines that follow.
-/

namespace Avenger

/-- Why a step gives no value. -/
def Step.failure? {α : Type} (step : Step α) : Option Failure :=
  match step.result with
  | .ok _ => none
  | .error failure => some failure

namespace CommandLine

/-- The lines of a text without the blanks at their ends, up to the first one that is `exit`. -/
def entered (text : String) : List String :=
  ((textLines text.toList).map fun line => Text.trim (String.ofList line)).takeWhile (· != "exit")

/-- The lines that are run. -/
def sources (lines : List String) : List String := lines.filter (!·.isEmpty)

/-- What is written in answer to lines: nothing to an empty one, and to each of the others what
the next step prints. -/
inductive Answered : List String → List (Step Value) → List String → Prop where
  | done : Answered [] [] []
  | empty {lines answers : List String} {steps : List (Step Value)}
      (rest : Answered lines steps answers) : Answered ("" :: lines) steps ("" :: answers)
  | ran {line : String} {lines answers : List String} {step : Step Value}
      {steps : List (Step Value)} (some : line ≠ "") (rest : Answered lines steps answers) :
      Answered (line :: lines) (step :: steps) (printedText step.printed :: answers)

/-- What is written to standard error: a complaint about each step that fails. -/
def complaints (noColor : Option String) (steps : List (Step Value)) : String :=
  String.join ((steps.filterMap Step.failure?).map fun failure =>
    complaint noColor failure.message)

section Lines

variable {noColor : Option String} {session : Session} {written : Outcome} {line : List UInt8}
  {rest : List (List UInt8)} {source : String} {lines : List String}

theorem sources_empty (lines : List String) : sources ("" :: lines) = sources lines := by
  simp [sources]

theorem sources_cons (some : source ≠ "") (lines : List String) :
    sources (source :: lines) = source :: sources lines := by
  simp [sources, some]

theorem complaints_cons (noColor : Option String) (step : Step Value)
    (steps : List (Step Value)) :
    complaints noColor (step :: steps) = complaints noColor [step] ++ complaints noColor steps := by
  unfold complaints
  rw [← String.join_append, ← List.map_append, ← List.filterMap_append]
  rfl

theorem converse_exit (reads : ReadsAs line "exit") :
    converse noColor session written (line :: rest) =
      { code := 0, output := written.output ++ prompt, errors := written.errors } := by
  obtain ⟨text, decoded, trimmed⟩ := reads
  simp [converse, reply, decoded, trimmed]

theorem converse_empty (reads : ReadsAs line "") :
    converse noColor session written (line :: rest) =
      converse noColor session { written with output := written.output ++ prompt } rest := by
  obtain ⟨text, decoded, trimmed⟩ := reads
  simp [converse, reply, decoded, trimmed]

/-- A line that is neither empty nor the end is a step of the session. -/
theorem converse_source (reads : ReadsAs line source) (more : source ≠ "exit")
    (some : source ≠ "") :
    let step := session.run source
    converse noColor session written (line :: rest) =
      converse noColor (session.after source)
        { written with
          output := written.output ++ prompt ++ printedText step.printed
          errors := written.errors ++ complaints noColor [step] } rest := by
  intro step
  obtain ⟨text, decoded, trimmed⟩ := reads
  have ran : reply noColor session line =
      .stay (session.after source) (printedText step.printed) (complaints noColor [step]) := by
    cases ended : step.result <;>
      simp [reply, decoded, trimmed, more, some, complaints, Step.failure?, ended,
        Session.after, step]
  rw [converse, ran]

/-- The conversation about lines goes on in one session until one of them ends it. -/
theorem converse_eq (noColor : Option String) (session : Session) (written : Outcome)
    {said : List String} (reads : List.Forall₂ ReadsAs rest said)
    (well : written.code = 0) :
    let heard := said.takeWhile (· != "exit")
    let steps := session.steps (sources heard)
    ∃ answers, Answered heard steps answers ∧
      converse noColor session written rest =
        { code := 0
          output := written.output ++ String.join (answers.map (prompt ++ ·)) ++ prompt
          errors := written.errors ++ complaints noColor steps } := by
  induction reads generalizing session written with
  | nil =>
      refine ⟨[], .done, ?_⟩
      simp [converse, well, complaints, sources, Session.steps]
  | @cons line source rest said first _ induction =>
      by_cases ends : source = "exit"
      · rw [ends] at first ⊢
        refine ⟨[], .done, ?_⟩
        simp [converse_exit first, complaints, sources, Session.steps]
      have heard : (source :: said).takeWhile (· != "exit") =
          source :: said.takeWhile (· != "exit") := by
        simp [ends]
      rw [heard]
      dsimp only at induction ⊢
      by_cases empty : source = ""
      · rw [empty] at first ⊢
        obtain ⟨answers, answered, outcome⟩ := induction session
          { written with output := written.output ++ prompt } well
        rw [converse_empty first, outcome, sources_empty]
        refine ⟨"" :: answers, .empty answered, ?_⟩
        simp [String.append_assoc]
      · let step := session.run source
        obtain ⟨answers, answered, outcome⟩ := induction (session.after source)
          { written with
            output := written.output ++ prompt ++ printedText step.printed
            errors := written.errors ++ complaints noColor [step] } well
        rw [converse_source first ends empty, outcome, sources_cons empty, Session.steps]
        refine ⟨printedText step.printed :: answers, .ran empty answered, ?_⟩
        rw [complaints_cons noColor (session.run source) (Session.steps _ _)]
        simp [String.append_assoc, step]

end Lines

example :
    (run
      { arguments := []
        setting := fun _ => none
        noColor := none
        file := fun _ => .error "none"
        input := Text.bytes "vision(1);\n thor;\n\nexit\nvision(2);".toList
        readings := Readings.seeded 0 0 }).output =
      "Avenger REPL v0.1.0\n> 1\n> > > " := by
  decide +kernel

end CommandLine

end Avenger
