import Avenger.Proofs.Printing.Rule

/-!
# Levels of precedence

The readers of expressions, numbered by the level of what they read.  From 1 to 7 such a
reader is a loop over the reader of the next level: it goes on at the tokens of its own level
and ends at all others.
-/

namespace Avenger

theorem Arithmetic.level_range (operator : Arithmetic) :
    3 ≤ operator.level ∧ operator.level ≤ 5 := by
  cases operator <;> simp [level]

theorem Arithmetic.mem_sums (operator : Arithmetic) :
    operator ∈ [add, subtract] ↔ operator.level = 3 := by
  cases operator <;> simp [level]

theorem Arithmetic.mem_products (operator : Arithmetic) :
    operator ∈ [multiply, divide, modulo] ↔ operator.level = 4 := by
  cases operator <;> simp [level]

theorem Arithmetic.mem_powers (operator : Arithmetic) :
    operator ∈ [power] ↔ operator.level = 5 := by
  cases operator <;> simp [level]

/-- The level of the expressions that go on with a token of a kind after their first operand,
except for arithmetic. -/
def Token.Kind.level? : Token.Kind → Option Nat
  | .openBracket => some 7
  | .openParen => some 6
  | .comparison => some 2
  | .logical => some 1
  | .equals | .compoundAssign => some 0
  | _ => none

namespace Token.Kind

theorem level?_eq_one {kind : Kind} : kind.level? = some 1 ↔ kind = .logical := by
  cases kind <;> simp [level?]

theorem level?_eq_two {kind : Kind} : kind.level? = some 2 ↔ kind = .comparison := by
  cases kind <;> simp [level?]

theorem level?_eq_six {kind : Kind} : kind.level? = some 6 ↔ kind = .openParen := by
  cases kind <;> simp [level?]

theorem level?_eq_seven {kind : Kind} : kind.level? = some 7 ↔ kind = .openBracket := by
  cases kind <;> simp [level?]

end Token.Kind

/-- The level of the expressions that go on with a token after their first operand. -/
def Token.level? (token : Token) : Option Nat :=
  if token.kind = .arithmetic then (Arithmetic.ofSymbol? token.text).map Arithmetic.level
  else token.kind.level?

/-- A token at which every expression from a level on ends. -/
def Token.Below (position : Nat) (token : Token) : Prop :=
  ∀ level, token.level? = some level → level < position

theorem Token.Below.mono {token : Token} {low high : Nat} (below : token.Below low)
    (le : low ≤ high) : token.Below high :=
  fun level same => Nat.lt_of_lt_of_le (below level same) le

theorem Token.Below.apart {token : Token} {position : Nat} (below : token.Below position) :
    token.level? ≠ some position :=
  fun same => Nat.lt_irrefl _ (below position same)

/-- The kinds of tokens that end every expression. -/
def Token.Kind.closing : List Token.Kind :=
  [.semicolon, .comma, .colon, .closeParen, .closeBracket, .closeBrace, .toWord, .stepWord]

theorem Token.below_of_closing {token : Token} {position : Nat}
    (closing : token.kind ∈ Token.Kind.closing) : token.Below position := by
  intro level same
  simp only [Kind.closing, List.mem_cons, List.not_mem_nil, or_false] at closing
  rcases closing with kind | kind | kind | kind | kind | kind | kind | kind <;>
    simp [level?, Kind.level?, kind] at same

/-- A token of one level ends the expressions of all levels above it. -/
theorem Token.below_of_level {token : Token} {level : Nat} (same : token.level? = some level) :
    token.Below (level + 1) := by
  intro other same'
  rw [same] at same'
  cases same'
  exact Nat.lt_succ_self level

theorem Slot.Holds.closing {slot : Slot} {token : Token} {position : Nat}
    (holds : slot.Holds token) (closing : slot.kind ∈ Token.Kind.closing) :
    token.Below position := by
  apply Token.below_of_closing
  rw [holds.kind]
  exact closing

theorem Slot.Holds.arithmetic_level {operator : Arithmetic} {token : Token}
    (holds : (Slot.arithmetic operator).Holds token) :
    token.level? = some operator.level := by
  have kind : token.kind = .arithmetic := holds.kind
  have reads : Arithmetic.ofSymbol? token.text = some operator := holds.reads
  simp [Token.level?, kind, reads]

/-- The level of a token that is not of arithmetic. -/
theorem Slot.Holds.level {slot : Slot} {token : Token} (holds : slot.Holds token)
    (other : slot.kind ≠ .arithmetic) : token.level? = slot.kind.level? := by
  rw [Token.level?, holds.kind, if_neg other]

namespace Reader

variable {setting : Setting} {inner operand : Reader Expr} {slots : List Slot}
  {follow : Token → Prop} {value : Expr}

/-- The reader of the expressions of a level and all levels above it. -/
def atLevel (inner operand : Reader Expr) : Nat → Reader Expr
  | 0 => assignmentOver inner operand
  | 1 => logical inner operand
  | 2 => comparisonOver inner operand
  | 3 => sum inner operand
  | 4 => product inner operand
  | 5 => power inner operand
  | 6 => call inner operand
  | 7 => member inner operand
  | 8 => unary inner operand
  | _ => primary inner operand

/-- An operator with its right operand. -/
def joinedStep {Operator : Type} (operator? : String → Option Operator)
    (join : Operator → Expr → Expr → Expr) (operand : Reader Expr) (left : Expr) :
    Reader Expr := do
  let token ← peek
  advance
  match operator? token.text with
  | some operator => return join operator left (← operand)
  | none => fail token.line (.unknownOperator token.text)

/-- One of some arithmetic operators with its right operand. -/
def arithmeticStep (operators : List Arithmetic) (operand : Reader Expr) (left : Expr) :
    Reader Expr := do
  let token ← peek
  advance
  let right ← operand
  return match arithmeticIn? operators token with
    | some operator => .arithmetic operator left right
    | none => left

/-- The arguments of a call. -/
def callStep (inner : Reader Expr) (callee : Expr) : Reader Expr := do
  advance
  return .call callee (← arguments inner)

/-- An index. -/
def memberStep (inner : Reader Expr) (object : Expr) : Reader Expr := do
  advance
  let index ← inner
  let _ ← expect .closeBracket "expected ']' after index"
  return .member object index

/-- What the loop of a level does in one turn. -/
def stepAt (inner operand : Reader Expr) : Nat → Expr → Reader Expr
  | 1 => joinedStep Connective.ofSymbol? .connective (atLevel inner operand 2)
  | 2 => joinedStep Comparison.ofSymbol? .comparison (atLevel inner operand 3)
  | 3 => arithmeticStep [.add, .subtract] (atLevel inner operand 4)
  | 4 => arithmeticStep [.multiply, .divide, .modulo] (atLevel inner operand 5)
  | 5 => arithmeticStep [.power] (atLevel inner operand 6)
  | 6 => callStep inner
  | _ => memberStep inner

/-- Whether the loop of a level goes on with a token. -/
def goesOn (level : Nat) (_ : Expr) (token : Token) : Bool := token.level? = some level

theorem goesOn_kind (kind : Token.Kind) {level : Nat} (low : level < 3 ∨ 5 < level)
    (only : ∀ other : Token.Kind, other.level? = some level ↔ other = kind) :
    (fun (_ : Expr) (token : Token) => decide (token.kind = kind)) = goesOn level := by
  funext value token
  unfold goesOn
  rw [decide_eq_decide]
  by_cases arithmetic : token.kind = .arithmetic
  · have apart : token.kind ≠ kind := by
      intro same
      have level := (only kind).mpr rfl
      rw [← same, arithmetic] at level
      cases level
    have outside : ∀ operator : Arithmetic, operator.level ≠ level := by
      intro operator
      have range := operator.level_range
      omega
    simp [Token.level?, arithmetic, outside, arithmetic ▸ apart]
  · rw [Token.level?, if_neg arithmetic]
    exact (only token.kind).symm

theorem goesOn_arithmetic (operators : List Arithmetic) {level : Nat}
    (range : 3 ≤ level ∧ level ≤ 5)
    (members : ∀ operator, operator ∈ operators ↔ operator.level = level) :
    (fun (_ : Expr) (token : Token) => (arithmeticIn? operators token).isSome) =
      goesOn level := by
  funext value token
  unfold goesOn arithmeticIn? Token.level?
  by_cases arithmetic : token.kind = .arithmetic
  · rw [if_pos arithmetic, if_pos arithmetic]
    cases Arithmetic.ofSymbol? token.text with
    | none => rfl
    | some operator => simp [Option.isSome_filter, members]
  · have outside : token.kind.level? ≠ some level := by
      unfold Token.Kind.level?
      split <;> simp <;> omega
    rw [if_neg arithmetic, if_neg arithmetic]
    simp [outside]

/-- From 1 to 7, a level is read by a loop over the next one. -/
theorem atLevel_eq {level : Nat} (first : 1 ≤ level) (last : level ≤ 7) :
    atLevel inner operand level = (do
      let value ← atLevel inner operand (level + 1)
      foldWhile (goesOn level) (stepAt inner operand level) value) := by
  obtain rfl | rfl | rfl | rfl | rfl | rfl | rfl : level = 1 ∨ level = 2 ∨ level = 3 ∨
      level = 4 ∨ level = 5 ∨ level = 6 ∨ level = 7 := by
    omega
  · rw [← goesOn_kind .logical (by omega) fun _ => Token.Kind.level?_eq_one]
    rfl
  · rw [← goesOn_kind .comparison (by omega) fun _ => Token.Kind.level?_eq_two]
    rfl
  · rw [← goesOn_arithmetic [.add, .subtract] (by omega) Arithmetic.mem_sums]
    rfl
  · rw [← goesOn_arithmetic [.multiply, .divide, .modulo] (by omega) Arithmetic.mem_products]
    rfl
  · rw [← goesOn_arithmetic [.power] (by omega) Arithmetic.mem_powers]
    rfl
  · rw [← goesOn_kind .openParen (by omega) fun _ => Token.Kind.level?_eq_six]
    rfl
  · rw [← goesOn_kind .openBracket (by omega) fun _ => Token.Kind.level?_eq_seven]
    rfl

theorem primary_minus {tokens : List Token}
    (kind : (tokens.headD setting.finish).kind = .minus) :
    primary inner operand setting tokens =
      .error (.error ⟨(tokens.headD setting.finish).line,
        .unexpected (tokens.headD setting.finish).text⟩) := by
  have read : peek setting tokens = .ok (tokens.headD setting.finish, tokens) := rfl
  unfold primary
  rw [bind_of_ok read, kind]
  rfl

/-- The reader of a level reads what the reader of the next one reads, if it ends there. -/
theorem Reads.lift {level : Nat}
    (reads : Reads setting (atLevel inner operand (level + 1)) slots follow value)
    (below : ∀ token, follow token → token.Below level) :
    Reads setting (atLevel inner operand level) slots follow value := by
  by_cases loop : 1 ≤ level ∧ level ≤ 7
  · rw [atLevel_eq loop.1 loop.2]
    apply (Chains.start reads).stop (fun _ next => next)
    intro token next
    exact decide_eq_false (below token next).apart
  · match level with
    | 0 =>
        refine Reads.map reads (Reads.peek (.nil fun _ next => next) ?_)
        intro token next
        have apart := (below token next).apart
        split
        · next kind => simp [Token.level?, Token.Kind.level?, kind] at apart
        · next kind => simp [Token.level?, Token.Kind.level?, kind] at apart
        · exact .pure value
    | 8 =>
        intro tokens rest fill next
        have read : primary inner operand setting (tokens ++ rest) = .ok (value, rest) :=
          reads tokens rest fill next
        have apart : ((tokens ++ rest).headD setting.finish).kind ≠ .minus := by
          intro kind
          rw [primary_minus kind] at read
          cases read
        have same : unary inner operand setting (tokens ++ rest) =
            primary inner operand setting (tokens ++ rest) :=
          bind_of_ok (skip_apart apart)
        exact same.trans read
    | _ + 9 => exact reads

/-- The reader of a level reads what those of higher levels read, if it ends there. -/
theorem Reads.descend {low high : Nat} (le : low ≤ high)
    (reads : Reads setting (atLevel inner operand high) slots follow value)
    (below : ∀ token, follow token → token.Below low) :
    Reads setting (atLevel inner operand low) slots follow value := by
  induction le with
  | refl => exact reads
  | step le induction =>
      apply induction
      exact reads.lift fun token next => (below token next).mono le

end Reader

end Avenger
