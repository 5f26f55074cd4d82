import Avenger.Proofs.Grammar.Statement
import Avenger.Reader.Program

/-!
# What is read follows the grammar

Whenever tokens are read as a program, the tokens before the first end of file are that
program by the rules of the grammar: none is skipped and none is used twice.
-/

namespace Avenger

/-- A statement has a first token. -/
theorem Grammar.Form.eq_cons {statement : Stmt → List Token → Prop} {action : Action}
    {used : List Token} (form : Form statement action used) :
    ∃ first rest, used = first :: rest := by
  refine List.exists_cons_of_ne_nil ?_
  cases form with
  | branch guarded _ _ =>
      cases guarded
      simp
  | loopWhile guarded =>
      cases guarded
      simp
  | _ => simp

namespace Reader

open Grammar

variable {setting : Setting}

/-- A statement is on the line of the first token that its reader takes. -/
theorem statementWithin_accepts (ends : setting.finish.kind = .endOfFile) (budget : Nat) :
    Accepts setting (statementWithin budget) Statement := by
  induction budget with
  | zero => exact ⟨fun read => by cases read⟩
  | succ budget induction =>
      refine ⟨fun {tokens rest value} read => ?_⟩
      unfold statementWithin at read
      dsimp only at read
      cases ran : action (statementWithin budget) (tokens.headD setting.finish) setting tokens with
      | error stop =>
          rw [ran] at read
          cases read
      | ok result =>
          obtain ⟨action, left⟩ := result
          rw [ran] at read
          cases read
          obtain ⟨used, rfl, form⟩ := action_taken ends induction ran
          obtain ⟨first, more, rfl⟩ := form.eq_cons
          exact ⟨first :: more, rfl, .mk form⟩

theorem program_accepts (ends : setting.finish.kind = .endOfFile) :
    Accepts setting Reader.program Script :=
  itemsUntil_accepts ⟨fun read => (statementWithin_accepts ends setting.budget).taken read⟩

theorem before_inside (tokens : List Token) :
    ∀ token ∈ before tokens, token.kind ≠ .endOfFile := by
  intro token member
  have inside := List.all_eq_true.mp List.all_takeWhile token member
  simpa using inside

/-- A program is read up to the end of file. -/
theorem program_rest {tokens rest : List Token} {program : Program}
    (ends : setting.finish.kind = .endOfFile)
    (inside : ∀ token ∈ tokens, token.kind ≠ .endOfFile)
    (read : Reader.program setting tokens = .ok (program, rest)) : rest = [] := by
  have kind := itemsUntil_ends read
  obtain ⟨used, rfl, -⟩ := (program_accepts ends).taken read
  cases rest with
  | nil => rfl
  | cons token rest => exact absurd (List.mem_singleton.mp kind) (inside token (by simp))

end Reader

/-- The tokens before the first end of file are, in order, a derivation of the program that
is read from them. -/
theorem Program.read_derives {tokens : List Token} {program : Program}
    (read : Program.ofTokens tokens = .ok program) :
    Grammar.Script program (Reader.before tokens) := by
  unfold Program.ofTokens Reader.run Reader.runWithin at read
  cases ran : Reader.program ⟨Reader.finish tokens, (Reader.before tokens).length + 1⟩
      (Reader.before tokens) with
  | error stop =>
      rw [ran] at read
      cases stop <;> cases read
  | ok result =>
      obtain ⟨program, rest⟩ := result
      rw [ran] at read
      cases read
      have ends := Reader.finish_kind tokens
      obtain rfl := Reader.program_rest ends (Reader.before_inside tokens) ran
      obtain ⟨used, split, script⟩ := (Reader.program_accepts ends).taken ran
      rw [List.append_nil] at split
      rwa [split]

/-- `team t[n] = { a { b }, };` on one line and, on the next one, a multiverse over `a` with an
empty default, a case that tests `! b == c`, and a default with an `endGame;`. -/
theorem Program.read_derives_multiverse :
    let team : List Token :=
      [⟨.team, "team", 1⟩, ⟨.identifier, "t", 1⟩, ⟨.openBracket, "[", 1⟩, ⟨.identifier, "n", 1⟩,
        ⟨.closeBracket, "]", 1⟩, ⟨.equals, "=", 1⟩, ⟨.openBrace, "\x7b", 1⟩,
        ⟨.identifier, "a", 1⟩, ⟨.openBrace, "\x7b", 1⟩, ⟨.identifier, "b", 1⟩,
        ⟨.closeBrace, "\x7d", 1⟩, ⟨.comma, ",", 1⟩, ⟨.closeBrace, "\x7d", 1⟩,
        ⟨.semicolon, ";", 1⟩]
    let multiverse : List Token :=
      [⟨.multiverse, "multiverse", 2⟩, ⟨.openParen, "(", 2⟩, ⟨.identifier, "a", 2⟩,
        ⟨.closeParen, ")", 2⟩, ⟨.openBrace, "\x7b", 2⟩, ⟨.default, "default", 3⟩,
        ⟨.colon, ":", 3⟩, ⟨.madness, "madness", 4⟩, ⟨.not, "!", 4⟩, ⟨.identifier, "b", 4⟩,
        ⟨.comparison, "==", 4⟩, ⟨.identifier, "c", 4⟩, ⟨.colon, ":", 4⟩,
        ⟨.default, "default", 5⟩, ⟨.colon, ":", 5⟩, ⟨.endGame, "endGame", 6⟩,
        ⟨.semicolon, ";", 6⟩, ⟨.closeBrace, "\x7d", 7⟩]
    let program : Program :=
      [.mk 1 (.team "t" (.name "n") [.name "a", .name "b"]),
        .mk 2 (.multiverse (.name "a")
          [.mk (.not (.comparison .equal (.name "b") (.name "c"))) []]
          [.mk 6 .endGame])]
    Program.ofTokens (team ++ multiverse ++ [Token.endOfFile 8]) = .ok program ∧
      Grammar.Script program (team ++ multiverse) := by
  intro team multiverse program
  have read : Program.ofTokens (team ++ multiverse ++ [Token.endOfFile 8]) = .ok program := by
    rfl
  exact ⟨read, Program.read_derives read⟩

end Avenger
