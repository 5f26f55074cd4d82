import Avenger.Proofs.Grammar
import Avenger.Proofs.Lexing.Writing
import Avenger.Proofs.Printing
import Avenger.Proofs.Relocation.Statement
import Avenger.Proofs.Sequence
import Avenger.Proofs.Termination

/-!
# Joined sources

A source is split where a statement ends and the next one starts on a new line.  The tokens of
the second part are those that it has alone, on later lines, and so are its statements or its
syntax error.
-/

namespace Avenger

namespace Token

/-- Every comment of a text is closed: lexemes and closed comments make it up to its end. -/
def CommentsClosed (source : String) : Prop := ∃ tokens, Lexed [] tokens source.toList []

section Lexed

variable {before characters middle left : List Char} {tokens : List Token}

/-- What has been decomposed stays so if a mark comes where the text ended. -/
theorem Lexed.followed {stop : Char} (lexed : Lexed before tokens characters left)
    (mark : stop ∈ marks) (rest : List Char) :
    Lexed before tokens (characters ++ stop :: rest) (left ++ stop :: rest) := by
  induction lexed with
  | stop => exact .stop
  | skip isSeparator _ induction =>
      rw [List.append_assoc]
      exact .skip isSeparator induction
  | token isLexeme _ induction =>
      rw [List.append_assoc]
      exact .token (isLexeme.before mark rest) induction

/-- A text in front only moves the tokens to later lines. -/
theorem Lexed.after (lexed : Lexed before tokens characters left) (front : List Char) :
    Lexed (front ++ before) (tokens.map (Token.relabel (· + newlines front))) characters left := by
  induction lexed with
  | stop => exact .stop
  | skip isSeparator _ induction =>
      rw [← List.append_assoc] at induction
      exact .skip isSeparator induction
  | @token before _ _ _ _ _ _ isLexeme _ induction =>
      rw [← List.append_assoc] at induction
      have line : 1 + newlines before + newlines front = 1 + newlines (front ++ before) := by
        rw [newlines_append, Nat.add_assoc, Nat.add_comm (newlines before)]
      rw [List.map_cons, Token.relabel, line]
      exact .token isLexeme induction

theorem Lexed.append {more : List Token} (first : Lexed before tokens characters middle)
    (second : ∀ read, characters = read ++ middle → Lexed (before ++ read) more middle left) :
    Lexed before (tokens ++ more) characters left := by
  induction first with
  | stop =>
      have rest := second [] rfl
      rwa [List.append_nil] at rest
  | @skip _ separator _ _ _ isSeparator _ induction =>
      refine .skip isSeparator (induction fun read split => ?_)
      rw [List.append_assoc]
      exact second (separator ++ read) (by rw [split, List.append_assoc])
  | @token _ _ lexeme _ _ _ _ isLexeme _ induction =>
      refine .token isLexeme (induction fun read split => ?_)
      rw [List.append_assoc]
      exact second (lexeme ++ read) (by rw [split, List.append_assoc])

end Lexed

section Joined

variable {first : List Char} {tokens : List Token}

/-- How a line of the second part of a joined text is counted in the whole. -/
abbrev shift (first : List Char) (line : Nat) : Nat := line + (1 + newlines first)

theorem Lexed.joined {second left : List Char} {more : List Token}
    (lexed : Lexed [] tokens first []) (lexed' : Lexed [] more second left) :
    Lexed [] (tokens ++ more.map (Token.relabel (shift first))) (first ++ '\n' :: second) left := by
  refine (lexed.followed (by decide) second).append fun read split => ?_
  obtain rfl := List.append_cancel_right split
  have moved := lexed'.after (first ++ ['\n'])
  have lines : newlines (first ++ ['\n']) = 1 + newlines first := by
    rw [newlines_append, Nat.add_comm]
    rfl
  rw [lines, List.append_nil] at moved
  have newline : Separator ['\n'] := .blank (by decide)
  have skipped : Lexed first (more.map (Token.relabel (shift first))) (['\n'] ++ second) left :=
    .skip newline moved
  exact skipped

/-- The lines of a joined text are those of both parts. -/
theorem newlines_joined (first second : List Char) :
    1 + newlines (first ++ '\n' :: second) = shift first (1 + newlines second) := by
  have newline : newlines ('\n' :: second) = newlines second + 1 := List.count_cons_self
  rw [newlines_append, newline, shift]
  omega

/-- A decomposition of the second part gives one of the joined text. -/
theorem Decomposition.joined {second : List Char} {result : Except SyntaxError (List Token)}
    (lexed : Lexed [] tokens first []) (decomposition : Decomposition second result) :
    Decomposition (first ++ '\n' :: second)
      ((result.mapError (SyntaxError.relabel (shift first))).map
        (tokens ++ ·.map (Token.relabel (shift first)))) := by
  cases decomposition with
  | @whole _ _ more lexed' unclosed _ =>
      have both := lexed.joined lexed'
      have whole := Decomposition.whole both unclosed both.kind_ne
      rw [newlines_joined, List.append_assoc] at whole
      have moved : (more ++ [endOfFile (1 + newlines second)]).map (Token.relabel (shift first)) =
          more.map (Token.relabel (shift first)) ++
            [endOfFile (shift first (1 + newlines second))] := List.map_append
      rwa [← moved] at whole
  | broken lexed' offends =>
      have both := lexed.joined lexed'
      rw [← List.cons_append, ← List.append_assoc] at both ⊢
      have broken := Decomposition.broken both offends
      rwa [newlines_joined] at broken

/-- A joined text has the tokens of both parts, those of the second one on later lines. -/
theorem lex_joined {source : String} (lexed : Lexed [] tokens source.toList []) (second : String) :
    lex (source ++ "\n" ++ second) =
      ((lex second).mapError (SyntaxError.relabel (shift source.toList))).map
        (tokens ++ ·.map (Token.relabel (shift source.toList))) := by
  obtain ⟨result, decomposition⟩ := exists_decomposition second.toList
  have same : lex second = result := decomposition.lexFrom_eq
  have characters : (source ++ "\n" ++ second).toList =
      source.toList ++ '\n' :: second.toList := by
    simp
  rw [same, lex, characters]
  exact (decomposition.joined lexed).lexFrom_eq

/-- The tokens of a text without open comments. -/
theorem Lexed.lex_eq {source : String} (lexed : Lexed [] tokens source.toList []) :
    lex source = .ok (tokens ++ [endOfFile (1 + newlines source.toList)]) :=
  (Decomposition.whole lexed .none lexed.kind_ne).lexFrom_eq

end Joined

end Token

namespace Reader

/-! ### Statements up to the end -/

/-- One more statement, in front of those that have been read. -/
def anotherStatement (done : List Stmt) : Reader (List Stmt) := do
  return (← statement) :: done

/-- The statements of a program, the last one first. -/
def statementsAfter (turns : Nat) (done : List Stmt) : Reader (List Stmt) :=
  foldTurns (fun _ token => !([Token.Kind.endOfFile].contains token.kind)) anotherStatement turns
    done

section Turns

variable {setting : Setting} {tokens : List Token} {turns : Nat} {done : List Stmt}

theorem statementsAfter_of_end (ended : (tokens.headD setting.finish).kind = .endOfFile) :
    statementsAfter turns done setting tokens = .ok (done, tokens) :=
  foldTurns_of_stop (by simpa using ended)

theorem statementsAfter_zero (other : (tokens.headD setting.finish).kind ≠ .endOfFile) :
    statementsAfter 0 done setting tokens = .error .outOfBudget :=
  if_pos (by simpa using other)

theorem statementsAfter_succ (other : (tokens.headD setting.finish).kind ≠ .endOfFile) :
    statementsAfter (turns + 1) done setting tokens =
      (anotherStatement done >>= statementsAfter turns) setting tokens :=
  foldTurns_of_turn (by simpa using other)

end Turns

theorem program_eq (setting : Setting) (tokens : List Token) :
    Reader.program setting tokens =
      (statementsAfter setting.budget [] setting tokens).map fun read =>
        (read.1.reverse, read.2) := by
  unfold Reader.program itemsUntil
  cases read : statementsAfter setting.budget [] setting tokens with
  | ok result => exact bind_of_ok read
  | error stop => exact bind_of_error read

theorem finish_append {tokens : List Token} {ending : Token}
    (inside : ∀ token ∈ tokens, token.kind ≠ .endOfFile) (ends : ending.kind = .endOfFile) :
    finish (tokens ++ [ending]) = ending := by
  have none : tokens.find? (·.kind == .endOfFile) = none :=
    List.find?_eq_none.mpr fun token member => by simpa using inside token member
  unfold finish
  rw [List.find?_append, none]
  simp [ends]

namespace Relocation

variable {move : Relocation} {size : Nat}

theorem anotherStatement_moves {before : List Stmt} (enough : size ≤ move.home.budget)
    (enough' : size ≤ move.away.budget) (done : List Stmt) :
    move.Moves size 1 move.Apart (fun done => done.map (Stmt.relabel move.lines) ++ before)
      (anotherStatement done)
      (anotherStatement (done.map (Stmt.relabel move.lines) ++ before)) :=
  (statement_moves enough enough').map fun value => .pure (value :: done)

/-- Statements that are all there is at home are read elsewhere, too, and then those behind
them. -/
theorem statementsAfter_goesOn {before : List Stmt} (apart : move.Apart)
    (enough : size ≤ move.home.budget) (enough' : size ≤ move.away.budget) {turns turns' left : Nat}
    {done all : List Stmt} {tokens : List Token} (fits : tokens.length < size)
    (many : tokens.length + left ≤ turns')
    (read : statementsAfter turns done move.home tokens = .ok (all, [])) :
    ∃ remaining, left ≤ remaining ∧
      statementsAfter turns' (done.map (Stmt.relabel move.lines) ++ before) move.away
          (move.tokens tokens) =
        statementsAfter remaining (all.map (Stmt.relabel move.lines) ++ before) move.away
          move.more := by
  induction turns generalizing turns' done tokens with
  | zero =>
      by_cases ended : (tokens.headD move.home.finish).kind = .endOfFile
      · rw [statementsAfter_of_end ended] at read
        cases read
        exact ⟨turns', by omega, rfl⟩
      · rw [statementsAfter_zero ended] at read
        cases read
  | succ turns induction =>
      by_cases ended : (tokens.headD move.home.finish).kind = .endOfFile
      · rw [statementsAfter_of_end ended] at read
        cases read
        exact ⟨turns', by omega, rfl⟩
      · rw [statementsAfter_succ ended] at read
        obtain ⟨more, rest, one, others⟩ := bind_eq_ok read
        obtain ⟨token, tokens, rfl⟩ := eq_cons_of_kind_ne move.ends ended
        rw [List.length_cons] at many
        obtain ⟨turns', rfl⟩ : ∃ less, turns' = less + 1 := ⟨turns' - 1, by omega⟩
        have moved := @anotherStatement_moves move size before enough enough' done _ fits
        rw [one] at moved
        cases moved with
        | ok taken same =>
            rw [List.length_cons] at taken fits
            have other : ((move.tokens (token :: tokens)).headD move.away.finish).kind ≠
                .endOfFile := ended
            rw [statementsAfter_succ other, bind_of_ok (same (.inr (.inl apart)))]
            exact induction (by omega) (by omega) others

/-- Statements with nothing behind them are read elsewhere with other lines, in front of those
before them. -/
theorem statementsAfter_moves {before : List Stmt} (enough : size ≤ move.home.budget)
    (enough' : size ≤ move.away.budget) {turns turns' : Nat} (many : size ≤ turns)
    (many' : size ≤ turns') (done : List Stmt) :
    move.Moves size 0 False (fun done => done.map (Stmt.relabel move.lines) ++ before)
      (statementsAfter turns done)
      (statementsAfter turns' (done.map (Stmt.relabel move.lines) ++ before)) :=
  .foldTurns many many' (fun _ _ => rfl) (fun _ _ kind => by simp [kind])
    (fun impossible => impossible.elim) fun done =>
      (anotherStatement_moves enough enough' done).mono (Nat.le_refl _) (Nat.le_refl 1)
        False.elim

end Relocation

end Reader

namespace Program

/-- What is made of the statements that have been read, the last one first. -/
def ofRead : Except Reader.Stop (List Stmt × List Token) → Except SyntaxError Program
  | .ok read => .ok read.1.reverse
  | .error (.error error) => .error error
  | .error .outOfBudget => .error ⟨0, .unexpected ""⟩

section Tokens

open Reader

variable {tokens : List Token} {ending : Token}
  (inside : ∀ token ∈ tokens, token.kind ≠ .endOfFile) (ends : ending.kind = .endOfFile)

include inside ends

theorem ofTokens_eq :
    ofTokens (tokens ++ [ending]) =
      ofRead (statementsAfter (tokens.length + 1) [] ⟨ending, tokens.length + 1⟩ tokens) := by
  unfold ofTokens run runWithin
  rw [before_append inside (by simpa using ends), finish_append inside ends, program_eq]
  rcases statementsAfter _ _ _ _ with (error | _) | read <;> rfl

theorem statementsAfter_of_ofTokens {program : Program}
    (read : ofTokens (tokens ++ [ending]) = .ok program) :
    statementsAfter (tokens.length + 1) [] ⟨ending, tokens.length + 1⟩ tokens =
      .ok (program.reverse, []) := by
  rw [ofTokens_eq inside ends] at read
  cases ran : statementsAfter (tokens.length + 1) [] ⟨ending, tokens.length + 1⟩ tokens with
  | error stop =>
      rw [ran] at read
      cases stop <;> cases read
  | ok result =>
      obtain ⟨done, rest⟩ := result
      rw [ran] at read
      cases read
      have whole := program_eq ⟨ending, tokens.length + 1⟩ tokens
      rw [ran] at whole
      obtain rfl : rest = [] := program_rest ends inside whole
      rw [List.reverse_reverse]

omit inside ends in
/-- A program is read to its end if other tokens stand behind it, and these are read next. -/
theorem statementsAfter_append {more : List Token} {done : List Stmt} {setting : Setting}
    (ends : ending.kind = .endOfFile) (apart : (more.headD setting.finish).kind ≠ .otherwise)
    (enough : tokens.length + 1 ≤ setting.budget) {turns left : Nat}
    (many : tokens.length + left ≤ turns)
    (read : statementsAfter (tokens.length + 1) [] ⟨ending, tokens.length + 1⟩ tokens =
      .ok (done, [])) :
    ∃ remaining, left ≤ remaining ∧
      statementsAfter turns [] setting (tokens ++ more) =
        statementsAfter remaining done setting more := by
  let front : Relocation := ⟨id, ⟨ending, tokens.length + 1⟩, setting, more, ends⟩
  obtain ⟨remaining, fits, same⟩ : ∃ remaining, left ≤ remaining ∧
      statementsAfter turns [] setting (front.tokens tokens) =
        statementsAfter remaining (done.map (Stmt.relabel id) ++ []) setting more := by
    have apart : front.Apart := apart
    exact front.statementsAfter_goesOn apart (Nat.le_refl _) enough (Nat.lt_succ_self _) many read
  have here : front.tokens tokens = tokens ++ more := by
    have labels : tokens.map (Token.relabel id) = tokens := List.map_id tokens
    rw [Relocation.tokens, labels]
  rw [here, List.append_nil, funext Stmt.relabel_id, List.map_id'] at same
  exact ⟨remaining, fits, same⟩

/-- A program is read on other lines, in front of the statements before it. -/
theorem ofRead_relabel {before : List Stmt} {setting : Setting} (lines : Nat → Nat)
    (finish : setting.finish = ending.relabel lines) (enough : tokens.length + 1 ≤ setting.budget)
    {turns : Nat} (many : tokens.length + 1 ≤ turns) :
    ofRead (statementsAfter turns before setting (tokens.map (Token.relabel lines))) =
      ((ofTokens (tokens ++ [ending])).mapError (SyntaxError.relabel lines)).map
        (before.reverse ++ ·.map (Stmt.relabel lines)) := by
  let back : Relocation := ⟨lines, ⟨ending, tokens.length + 1⟩, setting, [], ends⟩
  have alone : back.Alone := ⟨rfl, finish⟩
  have moved : back.Outcome tokens.length 0 False
      (fun done => done.map (Stmt.relabel lines) ++ before)
      (statementsAfter (tokens.length + 1) [] ⟨ending, tokens.length + 1⟩ tokens)
      (statementsAfter turns before setting (back.tokens tokens)) :=
    Relocation.statementsAfter_moves (Nat.le_refl _) enough (Nat.le_refl _) many [] tokens
      (Nat.lt_succ_self _)
  rw [ofTokens_eq inside ends]
  rw [Relocation.tokens, List.append_nil] at moved
  revert moved
  generalize statementsAfter (tokens.length + 1) [] ⟨ending, tokens.length + 1⟩ tokens = left
  intro moved
  cases moved with
  | ok _ same =>
      rw [same (.inr (.inr alone))]
      simp [ofRead, Except.map, Except.mapError]
  | error same =>
      rw [same alone]
      rfl

/-- The tokens of two programs, read together, where the second one does not start with an
`otherwise`. -/
theorem ofTokens_joined {program : Program} {first : List Token} {ending' : Token}
    (inside' : ∀ token ∈ first, token.kind ≠ .endOfFile) (ends' : ending'.kind = .endOfFile)
    (lines : Nat → Nat) (apart : (tokens.headD ending).kind ≠ .otherwise)
    (read : ofTokens (first ++ [ending']) = .ok program) :
    ofTokens (first ++ (tokens ++ [ending]).map (Token.relabel lines)) =
      ((ofTokens (tokens ++ [ending])).mapError (SyntaxError.relabel lines)).map
        (program ++ ·.map (Stmt.relabel lines)) := by
  have apart' : ((tokens.map (Token.relabel lines)).headD (ending.relabel lines)).kind ≠
      .otherwise := by
    cases tokens <;> exact apart
  have both : ∀ token ∈ first ++ tokens.map (Token.relabel lines), token.kind ≠ .endOfFile :=
    List.forall_mem_append.mpr ⟨inside', List.forall_mem_map.mpr inside⟩
  have whole := ofTokens_eq both (show (ending.relabel lines).kind = .endOfFile from ends)
  rw [List.length_append, List.length_map] at whole
  let setting : Setting := ⟨ending.relabel lines, first.length + tokens.length + 1⟩
  have enough : first.length + 1 ≤ setting.budget := by simp only [setting]; omega
  have enough' : tokens.length + 1 ≤ setting.budget := by simp only [setting]; omega
  have many : first.length + (tokens.length + 1) ≤ setting.budget := by simp only [setting]; omega
  obtain ⟨remaining, fits, goesOn⟩ := statementsAfter_append ends' apart' enough many
    (statementsAfter_of_ofTokens inside' ends' read)
  rw [goesOn, ofRead_relabel inside ends lines rfl enough' fits, List.reverse_reverse,
    List.append_assoc] at whole
  rwa [List.map_append, List.map_singleton]

end Tokens

/-- The program of two sources with a line break between them. -/
theorem ofSource_append {first second : String} {program : Program}
    (read : ofSource first = .ok program) (closed : Token.CommentsClosed first)
    (apart : ∀ tokens, Token.lex second = .ok tokens →
      ∀ token ∈ tokens.head?, token.kind ≠ .otherwise) :
    ofSource (first ++ "\n" ++ second) =
      ((ofSource second).mapError (SyntaxError.relabel (Token.shift first.toList))).map
        (program ++ ·.map (Stmt.relabel (Token.shift first.toList))) := by
  obtain ⟨tokens, lexed⟩ := closed
  unfold ofSource at read ⊢
  rw [Token.lex_joined lexed]
  rw [lexed.lex_eq] at read
  obtain ⟨result, decomposition⟩ := Token.exists_decomposition second.toList
  have same : Token.lex second = result := decomposition.lexFrom_eq
  rw [same] at apart ⊢
  generalize second.toList = characters at decomposition
  cases decomposition with
  | broken => rfl
  | @whole _ _ more lexed' _ inside =>
      refine ofTokens_joined inside rfl lexed.kind_ne rfl _ ?_ read
      cases more with
      | nil => exact (by decide : Token.Kind.endOfFile ≠ .otherwise)
      | cons token more => exact apart _ rfl token rfl

section Runs

variable {scope : ScopeId} {world later : World} {value : Value}

/-- A program that ends normally is followed by the statements after it, as by a program of
their own. -/
theorem exec_append {first second : Program}
    (closed : ∀ {id routine}, world.heap.routine? id = some routine →
      routine.closure.index < world.heap.scopes.size)
    (bound : scope.index < world.heap.scopes.size) (some : second ≠ [])
    (ran : first.exec scope world = .ok (.normal value) later) :
    exec (first ++ second) scope world = second.exec scope later := by
  have ended := (exec_finishes closed bound first (Nat.le_refl _)).ended
  rw [ran] at ended
  obtain ⟨bound', closed'⟩ : scope.index < later.heap.scopes.size ∧
      ∀ {id routine}, later.heap.routine? id = Option.some routine →
        routine.closure.index < later.heap.scopes.size := by
    cases ended with
    | ok _ steady hold => exact ⟨(steady scope bound).1, hold.closures⟩
  have deep := Nat.le_max_left world.heap.callBudget later.heap.callBudget
  have deep' := Nat.le_max_right world.heap.callBudget later.heap.callBudget
  rw [exec_eq_deep closed bound first deep] at ran
  rw [exec_eq_deep closed bound (first ++ second) deep, exec_eq_deep closed' bound' second deep',
    Stmt.execList_append ran, Stmt.execList_of_ne_nil some]

end Runs

end Program

end Avenger
