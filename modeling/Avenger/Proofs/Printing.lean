import Avenger.Proofs.Printing.Action
import Avenger.Proofs.Printing.Filling

/-!
# Reading printed programs

Reading undoes printing: the tokens that a program is printed as are read as the program.  The
parentheses of the print are only those that levels ask for, so no two programs with complete
constants share a print.
-/

namespace Avenger

namespace Reader

variable {setting : Setting} {blank : Bool}

/-- A statement is read with a budget of its slots, since every statement inside it has
fewer. -/
theorem statementWithin_reads {budget : Nat} (enough : budget ≤ setting.budget) :
    ReadsNested setting blank (statementWithin budget) budget := by
  induction budget with
  | zero =>
      intro statement _ fits
      cases fits
  | succ budget induction =>
      have nests := induction (Nat.le_of_succ_le enough)
      intro statement complete fits tokens rest fill next
      obtain ⟨line, action⟩ := statement
      rw [Stmt.slots] at fits fill
      rw [Slot.length_onLine] at fits
      have starts : Slot.StartsIn Stmt.firstKinds (action.slots blank) := action.slots_start
      obtain ⟨slot, slots, start, -⟩ := starts
      rw [start, Slot.onLine] at fill
      cases fill with
      | @cons _ first _ tokens holds fill =>
          have same : (action.slots blank).head?.map Slot.kind = some first.kind := by
            rw [start, holds.kind]
            rfl
          have whole : List.Forall₂ Slot.Holds (action.slots blank) (first :: tokens) := by
            rw [start]
            exact .cons ⟨holds.kind, holds.reads, holds.line.1⟩ fill
          have read := action_reads nests (Nat.le_of_succ_le enough) complete
            (Nat.le_of_lt_succ fits) same (first :: tokens) rest whole next
          have lines : first.line = line := holds.line.2
          rw [List.cons_append] at read ⊢
          unfold statementWithin
          dsimp only [List.headD_cons]
          rw [read, lines]

theorem statement_reads : ReadsNested setting blank statement setting.budget :=
  fun action complete fits tokens rest fill next =>
    statementWithin_reads (Nat.le_refl _) action complete fits tokens rest fill next

theorem program_reads {program : Program} (complete : Stmt.ListComplete program)
    (fits : (Stmt.listSlots blank program).length < setting.budget) :
    Reads setting Reader.program (Stmt.listSlots blank program) (·.kind = .endOfFile)
      program := by
  apply statements_read statement_reads (Nat.le_refl _) complete fits (by decide)
  intro token kind
  rw [kind]
  decide

/-- Only tokens of a print are before the end of file. -/
theorem before_append {tokens rest : List Token}
    (inside : ∀ token ∈ tokens, token.kind ≠ .endOfFile)
    (ends : ∀ token ∈ rest.head?, token.kind = .endOfFile) :
    before (tokens ++ rest) = tokens := by
  unfold before
  rw [List.takeWhile_append_of_pos (by simpa using inside)]
  cases rest with
  | nil => rw [List.takeWhile_nil, List.append_nil]
  | cons token rest =>
      have kind := ends token rfl
      rw [List.takeWhile_cons_of_neg (by simp [kind]), List.append_nil]

/-- Reading a print succeeds, with or without an end of file after it. -/
theorem run_printed {program : Program} {tokens rest : List Token}
    (complete : Stmt.ListComplete program) (printed : program.Printed blank tokens)
    (ends : ∀ token ∈ rest.head?, token.kind = .endOfFile) :
    Reader.program.run (tokens ++ rest) = .ok program := by
  have inside := Slot.inside_of_fill (Stmt.listSlots_fillable program) printed
  have length : (Stmt.listSlots blank program).length = tokens.length := printed.length_eq
  let setting : Setting := ⟨finish (tokens ++ rest), tokens.length + 1⟩
  have fits : (Stmt.listSlots blank program).length < setting.budget := by
    rw [length]
    exact Nat.lt_succ_self _
  have read := program_reads complete fits tokens [] printed (finish_kind _)
  rw [List.append_nil] at read
  unfold run runWithin
  rw [before_append inside ends, read]
  rfl

end Reader

/-- No two programs have a print in common. -/
theorem Program.printed_unique {blank blank' : Bool} {program program' : Program}
    {tokens : List Token} (complete : Stmt.ListComplete program)
    (complete' : Stmt.ListComplete program') (printed : program.Printed blank tokens)
    (printed' : program'.Printed blank' tokens) : program = program' := by
  have ends : ∀ token ∈ ([] : List Token).head?, token.kind = .endOfFile := by simp
  have read := Reader.run_printed complete printed ends
  rw [Reader.run_printed complete' printed' ends] at read
  exact (Except.ok.inj read).symm

/-- The tokens of a print are read as the program that was printed, with or without an end of
file after them. -/
theorem Program.read_printed {blank : Bool} {program : Program} {tokens rest : List Token}
    (complete : Stmt.ListComplete program) (printed : program.Printed blank tokens)
    (ends : ∀ token ∈ rest.head?, token.kind = .endOfFile) :
    Program.ofTokens (tokens ++ rest) = .ok program := by
  unfold Program.ofTokens
  rw [Reader.run_printed complete printed ends]

/-- `newEternal total = (a + b) * c; snap (! total);` on two lines. -/
theorem Program.read_printed_product :
    Program.ofTokens
      ([⟨.newEternal, "newEternal", 1⟩, ⟨.identifier, "total", 1⟩, ⟨.equals, "=", 1⟩,
        ⟨.openParen, "(", 1⟩, ⟨.identifier, "a", 1⟩, ⟨.arithmetic, "+", 1⟩,
        ⟨.identifier, "b", 1⟩, ⟨.closeParen, ")", 1⟩, ⟨.arithmetic, "*", 1⟩,
        ⟨.identifier, "c", 1⟩, ⟨.semicolon, ";", 1⟩, ⟨.snap, "snap", 2⟩,
        ⟨.openParen, "(", 2⟩, ⟨.not, "!", 2⟩, ⟨.identifier, "total", 2⟩,
        ⟨.closeParen, ")", 2⟩, ⟨.semicolon, ";", 2⟩] ++ [Token.endOfFile 2]) =
      .ok [.mk 1 (.declare "total" true (some (.arithmetic .multiply
          (.arithmetic .add (.name "a") (.name "b")) (.name "c")))),
        .mk 2 (.snap (some (.not (.name "total"))))] := by
  have plus : Arithmetic.ofSymbol? "+" = some .add := by decide
  have times : Arithmetic.ofSymbol? "*" = some .multiply := by decide
  refine Program.read_printed ?_ (?_ : Program.Printed false _ _) ?_
  · exact ⟨fun _ => rfl, trivial, trivial⟩
  · exact .cons ⟨rfl, trivial, trivial, rfl⟩ (.cons ⟨rfl, rfl, trivial⟩
      (.cons ⟨rfl, trivial, trivial⟩ (.cons ⟨rfl, trivial, trivial⟩
      (.cons ⟨rfl, rfl, trivial⟩ (.cons ⟨rfl, plus, trivial⟩ (.cons ⟨rfl, rfl, trivial⟩
      (.cons ⟨rfl, trivial, trivial⟩ (.cons ⟨rfl, times, trivial⟩
      (.cons ⟨rfl, rfl, trivial⟩ (.cons ⟨rfl, trivial, trivial⟩
      (.cons ⟨rfl, trivial, trivial, rfl⟩ (.cons ⟨rfl, trivial, trivial⟩
      (.cons ⟨rfl, trivial, trivial⟩ (.cons ⟨rfl, rfl, trivial⟩
      (.cons ⟨rfl, trivial, trivial⟩ (.cons ⟨rfl, trivial, trivial⟩ .nil))))))))))))))))
  · simp [Token.endOfFile]

end Avenger
