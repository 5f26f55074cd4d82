import Avenger.Program
import Avenger.SyntaxError

/-!
# Line numbers as labels

The lines of tokens, statements and syntax errors replaced by others.
-/

namespace Avenger

variable (lines : Nat → Nat)

/-- A token on another line. -/
def Token.relabel (token : Token) : Token := { token with line := lines token.line }

/-- A syntax error on another line. -/
def SyntaxError.relabel (error : SyntaxError) : SyntaxError :=
  { error with line := lines error.line }

mutual

/-- A statement with the line of every statement in it replaced. -/
def Stmt.relabel : Stmt → Stmt
  | .mk line action => .mk (lines line) action.relabel

/-- What a statement does, with the line of every statement in it replaced. -/
def Action.relabel : Action → Action
  | .branch condition body alternatives otherwise =>
      .branch condition (Stmt.listRelabel body) (Clause.listRelabel alternatives)
        (Stmt.optionRelabel otherwise)
  | .loopWhile condition body => .loopWhile condition (Stmt.listRelabel body)
  | .loopRange iterator start stop step body =>
      .loopRange iterator start stop step (Stmt.listRelabel body)
  | .loopFor header condition modification body =>
      .loopFor header.relabel condition modification (Stmt.listRelabel body)
  | .multiverse discriminant cases fallback =>
      .multiverse discriminant (Clause.listRelabel cases) (Stmt.listRelabel fallback)
  | .assemble name parameters body => .assemble name parameters (Stmt.listRelabel body)
  | .expression value => .expression value
  | .declare name constant value => .declare name constant value
  | .team name size values => .team name size values
  | .snap value => .snap value
  | .endGame => .endGame

/-- List counterpart of `Stmt.relabel`. -/
def Stmt.listRelabel : List Stmt → List Stmt
  | [] => []
  | statement :: rest => statement.relabel :: Stmt.listRelabel rest

/-- Optional counterpart of `Stmt.listRelabel`. -/
def Stmt.optionRelabel : Option (List Stmt) → Option (List Stmt)
  | none => none
  | some body => some (Stmt.listRelabel body)

/-- Clauses with the line of every statement in them replaced. -/
def Clause.listRelabel : List Clause → List Clause
  | [] => []
  | .mk test body :: rest => .mk test (Stmt.listRelabel body) :: Clause.listRelabel rest

end

/-- A clause with the line of every statement in it replaced. -/
def Clause.relabel (clause : Clause) : Clause :=
  .mk clause.test (Stmt.listRelabel lines clause.body)

theorem Stmt.listRelabel_eq_map (statements : List Stmt) :
    Stmt.listRelabel lines statements = statements.map (Stmt.relabel lines) := by
  induction statements with
  | nil => rfl
  | cons statement rest induction => rw [Stmt.listRelabel, induction, List.map_cons]

theorem Stmt.optionRelabel_eq_map (statements : Option (List Stmt)) :
    Stmt.optionRelabel lines statements = statements.map (Stmt.listRelabel lines) := by
  cases statements <;> rfl

theorem Clause.listRelabel_eq_map (clauses : List Clause) :
    Clause.listRelabel lines clauses = clauses.map (Clause.relabel lines) := by
  induction clauses with
  | nil => rfl
  | cons clause rest induction =>
      obtain ⟨test, body⟩ := clause
      rw [Clause.listRelabel, induction, List.map_cons]
      rfl

theorem Clause.listRelabel_reverse (clauses : List Clause) :
    Clause.listRelabel lines clauses.reverse = (Clause.listRelabel lines clauses).reverse := by
  rw [Clause.listRelabel_eq_map, Clause.listRelabel_eq_map, List.map_reverse]

mutual

/-- The lines of a statement and of all statements in it. -/
def Stmt.lines : Stmt → List Nat
  | .mk line action => line :: action.lines

/-- The lines of the statements in what a statement does. -/
def Action.lines : Action → List Nat
  | .branch _ body alternatives otherwise =>
      Stmt.listLines body ++ Clause.listLines alternatives ++ Stmt.optionLines otherwise
  | .loopWhile _ body | .loopRange _ _ _ _ body | .assemble _ _ body => Stmt.listLines body
  | .loopFor header _ _ body => header.lines ++ Stmt.listLines body
  | .multiverse _ cases fallback => Clause.listLines cases ++ Stmt.listLines fallback
  | .expression _ | .declare _ _ _ | .team _ _ _ | .snap _ | .endGame => []

/-- List counterpart of `Stmt.lines`. -/
def Stmt.listLines : List Stmt → List Nat
  | [] => []
  | statement :: rest => statement.lines ++ Stmt.listLines rest

/-- Optional counterpart of `Stmt.listLines`. -/
def Stmt.optionLines : Option (List Stmt) → List Nat
  | none => []
  | some body => Stmt.listLines body

/-- The lines of the statements in the bodies of clauses. -/
def Clause.listLines : List Clause → List Nat
  | [] => []
  | .mk _ body :: rest => Stmt.listLines body ++ Clause.listLines rest

end

variable {lines}

mutual

/-- Only the lines that a statement has matter. -/
theorem Stmt.relabel_eq_self {statement : Stmt}
    (fixed : ∀ line ∈ statement.lines, lines line = line) :
    statement.relabel lines = statement := by
  obtain ⟨line, action⟩ := statement
  rw [Stmt.lines, List.forall_mem_cons] at fixed
  rw [Stmt.relabel, fixed.1, Action.relabel_eq_self fixed.2]

theorem Action.relabel_eq_self {action : Action}
    (fixed : ∀ line ∈ action.lines, lines line = line) : action.relabel lines = action := by
  cases action with
  | branch condition body alternatives otherwise =>
      rw [Action.lines, List.forall_mem_append, List.forall_mem_append] at fixed
      obtain ⟨⟨inBody, inAlternatives⟩, inOtherwise⟩ := fixed
      rw [Action.relabel, Stmt.listRelabel_eq_self inBody,
        Clause.listRelabel_eq_self inAlternatives, Stmt.optionRelabel_eq_self inOtherwise]
  | loopWhile condition body => rw [Action.relabel, Stmt.listRelabel_eq_self fixed]
  | loopRange iterator start stop step body =>
      rw [Action.relabel, Stmt.listRelabel_eq_self fixed]
  | loopFor header condition modification body =>
      rw [Action.lines, List.forall_mem_append] at fixed
      rw [Action.relabel, Stmt.relabel_eq_self fixed.1, Stmt.listRelabel_eq_self fixed.2]
  | multiverse discriminant cases fallback =>
      rw [Action.lines, List.forall_mem_append] at fixed
      rw [Action.relabel, Clause.listRelabel_eq_self fixed.1, Stmt.listRelabel_eq_self fixed.2]
  | assemble name parameters body => rw [Action.relabel, Stmt.listRelabel_eq_self fixed]
  | expression | declare | team | snap | endGame => rw [Action.relabel]

theorem Stmt.listRelabel_eq_self {statements : List Stmt}
    (fixed : ∀ line ∈ Stmt.listLines statements, lines line = line) :
    Stmt.listRelabel lines statements = statements := by
  match statements with
  | [] => rfl
  | statement :: rest =>
      rw [Stmt.listLines, List.forall_mem_append] at fixed
      rw [Stmt.listRelabel, Stmt.relabel_eq_self fixed.1, Stmt.listRelabel_eq_self fixed.2]

theorem Stmt.optionRelabel_eq_self {statements : Option (List Stmt)}
    (fixed : ∀ line ∈ Stmt.optionLines statements, lines line = line) :
    Stmt.optionRelabel lines statements = statements := by
  match statements with
  | none => rfl
  | some body => rw [Stmt.optionRelabel, Stmt.listRelabel_eq_self fixed]

theorem Clause.listRelabel_eq_self {clauses : List Clause}
    (fixed : ∀ line ∈ Clause.listLines clauses, lines line = line) :
    Clause.listRelabel lines clauses = clauses := by
  match clauses with
  | [] => rfl
  | .mk test body :: rest =>
      rw [Clause.listLines, List.forall_mem_append] at fixed
      rw [Clause.listRelabel, Stmt.listRelabel_eq_self fixed.1, Clause.listRelabel_eq_self fixed.2]

end

/-- Lines that are replaced by themselves. -/
theorem Stmt.relabel_id (statement : Stmt) : statement.relabel id = statement :=
  Stmt.relabel_eq_self fun _ _ => rfl

end Avenger
