import Avenger.Proofs.Printing.Printer

/-!
# The grammar

Which tokens stand for which expressions and statements, said without the readers.  A rule
lists the tokens of a construct in order.  Expressions have levels, from assignments at 0 up
to primaries at 9; an operand on the left of a level is of that level, and one on the right
of the next, so that all levels but that of assignments group to the left.
-/

namespace Avenger.Grammar

/-! ### Rows of items -/

section Rows

variable {α : Type} (item : α → List Token → Prop)

/-- Items one after the other. -/
inductive Sequence : List α → List Token → Prop where
  | none : Sequence [] []
  | some {first : α} {rest : List α} {used more : List Token} :
      item first used → Sequence rest more → Sequence (first :: rest) (used ++ more)

/-- An item with a comma before it. -/
inductive AfterComma : α → List Token → Prop where
  | mk {comma : Token} {value : α} {used : List Token} :
      comma.kind = .comma → item value used → AfterComma value (comma :: used)

/-- An item with or without a comma after it. -/
inductive BeforeComma : α → List Token → Prop where
  | without {value : α} {used : List Token} : item value used → BeforeComma value used
  | with {comma : Token} {value : α} {used : List Token} :
      item value used → comma.kind = .comma → BeforeComma value (used ++ [comma])

/-- Items with a comma between each two. -/
inductive Separated : List α → List Token → Prop where
  | none : Separated [] []
  | some {first : α} {rest : List α} {used more : List Token} :
      item first used → Sequence (AfterComma item) rest more →
      Separated (first :: rest) (used ++ more)

variable {item}

theorem Sequence.concat {items : List α} {value : α} {used more : List Token}
    (sequence : Sequence item items used) (last : item value more) :
    Sequence item (items ++ [value]) (used ++ more) := by
  induction sequence with
  | none =>
      have single := Sequence.some last .none
      rwa [List.append_nil] at single
  | some first _ induction =>
      rw [List.append_assoc]
      exact .some first induction

end Rows

/-! ### Expressions -/

/-- `Expression level expression tokens`: the tokens are an expression of the level or of a
higher one. -/
inductive Expression : Nat → Expr → List Token → Prop where
  | higher {level : Nat} {expression : Expr} {used : List Token} :
      Expression (level + 1) expression used → Expression level expression used
  | assign {target value : Expr} {left right : List Token} {sign : Token} :
      Expression 1 target left → sign.kind = .equals → Expression 0 value right →
      Expression 0 (.assign target value) (left ++ sign :: right)
  | update {target value : Expr} {left right : List Token} {sign : Token}
      {operator : Arithmetic} {signs : Nat} :
      Expression 1 target left → sign.kind = .compoundAssign →
      sign.text.toList = operator.symbol.toList ++ List.replicate signs '=' →
      Expression 0 value right →
      Expression 0 (.update operator target value) (left ++ sign :: right)
  | connective {first second : Expr} {left right : List Token} {sign : Token}
      {operator : Connective} :
      Expression 1 first left → sign.kind = .logical →
      (sign.text = operator.symbol ∨ sign.text = operator.word) →
      Expression 2 second right →
      Expression 1 (.connective operator first second) (left ++ sign :: right)
  | comparison {first second : Expr} {left right : List Token} {sign : Token}
      {operator : Comparison} :
      Expression 2 first left → sign.kind = .comparison → sign.text = operator.symbol →
      Expression 3 second right →
      Expression 2 (.comparison operator first second) (left ++ sign :: right)
  | arithmetic {first second : Expr} {left right : List Token} {sign : Token}
      {operator : Arithmetic} :
      Expression operator.level first left → sign.kind = .arithmetic →
      sign.text = operator.symbol → Expression (operator.level + 1) second right →
      Expression operator.level (.arithmetic operator first second) (left ++ sign :: right)
  | call {callee : Expr} {arguments : List Expr} {left inside : List Token}
      {opening closing : Token} :
      Expression 6 callee left → opening.kind = .openParen →
      Separated (Expression 0) arguments inside → closing.kind = .closeParen →
      Expression 6 (.call callee arguments) (left ++ opening :: (inside ++ [closing]))
  | member {object index : Expr} {left inside : List Token} {opening closing : Token} :
      Expression 7 object left → opening.kind = .openBracket → Expression 0 index inside →
      closing.kind = .closeBracket →
      Expression 7 (.member object index) (left ++ opening :: (inside ++ [closing]))
  | minus {operand : Expr} {used : List Token} {sign : Token} :
      sign.kind = .minus → Expression 9 operand used →
      Expression 8 (.minus operand) (sign :: used)
  | name {token : Token} : token.kind = .identifier → Expression 9 (.name token.text) [token]
  | number {token : Token} {value : Float} :
      token.kind = .number → Number.ofText? token.text = some value →
      Expression 9 (.number value) [token]
  | text {token : Token} : token.kind = .string → Expression 9 (.text token.text) [token]
  | null {token : Token} : token.kind = .null → Expression 9 .null [token]
  | parentheses {expression : Expr} {inside : List Token} {opening closing : Token} :
      opening.kind = .openParen → Expression 0 expression inside →
      closing.kind = .closeParen →
      Expression 9 expression (opening :: (inside ++ [closing]))
  | braces {expression : Expr} {inside : List Token} {opening closing : Token} :
      opening.kind = .openBrace → Expression 0 expression inside →
      closing.kind = .closeBrace →
      Expression 9 expression (opening :: (inside ++ [closing]))
  | not {operand : Expr} {used : List Token} {sign : Token} :
      sign.kind = .not → Expression 2 operand used → Expression 9 (.not operand) (sign :: used)

/-! ### Statements -/

section Statements

variable (statement : Stmt → List Token → Prop)

/-- Statements between braces. -/
inductive Block : List Stmt → List Token → Prop where
  | mk {opening closing : Token} {body : List Stmt} {inside : List Token} :
      opening.kind = .openBrace → Sequence statement body inside →
      closing.kind = .closeBrace → Block body (opening :: (inside ++ [closing]))

/-- A word, a condition in parentheses and a body in braces. -/
inductive Guarded (word : Token.Kind) : Clause → List Token → Prop where
  | mk {test : Expr} {body : List Stmt} {first opening closing : Token}
      {inside block : List Token} :
      first.kind = word → opening.kind = .openParen → Expression 0 test inside →
      closing.kind = .closeParen → Block statement body block →
      Guarded word (.mk test body) (first :: opening :: (inside ++ closing :: block))

/-- An `otherwise ifWorthy`. -/
inductive Alternative : Clause → List Token → Prop where
  | mk {first : Token} {clause : Clause} {used : List Token} :
      first.kind = .otherwise → Guarded statement .ifWorthy clause used →
      Alternative clause (first :: used)

/-- An `otherwise`, or nothing. -/
inductive Otherwise : Option (List Stmt) → List Token → Prop where
  | none : Otherwise none []
  | some {body : List Stmt} {block : List Token} {first : Token} :
      first.kind = .otherwise → Block statement body block →
      Otherwise (some body) (first :: block)

/-- A section of a multiverse: a case or a default. -/
inductive Section : Clause ⊕ List Stmt → List Token → Prop where
  | case {test : Expr} {body : List Stmt} {first colon : Token} {used more : List Token} :
      first.kind = .madness → Expression 0 test used → colon.kind = .colon →
      Sequence statement body more →
      Section (.inl (.mk test body)) (first :: (used ++ colon :: more))
  | default {body : List Stmt} {first colon : Token} {more : List Token} :
      first.kind = .default → colon.kind = .colon → Sequence statement body more →
      Section (.inr body) (first :: colon :: more)

/-- A word and a value after it, or nothing. -/
inductive Optional (word : Token.Kind) : Option Expr → List Token → Prop where
  | none : Optional word none []
  | some {value : Expr} {used : List Token} {first : Token} :
      first.kind = word → Expression 0 value used → Optional word (some value) (first :: used)

/-- The name of a parameter. -/
inductive Parameter : String → List Token → Prop where
  | mk {token : Token} : token.kind = .identifier → Parameter token.text [token]

/-- `Form action tokens`: the tokens are a statement with that action, if those of the
statements inside it are as `statement` says. -/
inductive Form : Action → List Token → Prop where
  | expression {value : Expr} {used : List Token} {semicolon : Token} :
      Expression 0 value used → semicolon.kind = .semicolon →
      Form (.expression value) (used ++ [semicolon])
  | variable {first name semicolon : Token} :
      first.kind = .newAvenger → name.kind = .identifier → semicolon.kind = .semicolon →
      Form (.declare name.text false none) [first, name, semicolon]
  | initialized {constant : Bool} {value : Expr} {used : List Token}
      {first name sign semicolon : Token} :
      first.kind = (if constant then .newEternal else .newAvenger) → name.kind = .identifier →
      sign.kind = .equals → Expression 0 value used → semicolon.kind = .semicolon →
      Form (.declare name.text constant (some value))
        (first :: name :: sign :: (used ++ [semicolon]))
  | team {size : Expr} {values : List Expr} {used more : List Token}
      {first name opening closing sign openBrace closeBrace semicolon : Token} :
      first.kind = .team → name.kind = .identifier → opening.kind = .openBracket →
      Expression 0 size used → closing.kind = .closeBracket → sign.kind = .equals →
      openBrace.kind = .openBrace → Sequence (BeforeComma (Expression 0)) values more →
      closeBrace.kind = .closeBrace → semicolon.kind = .semicolon →
      Form (.team name.text size values)
        (first :: name :: opening ::
          (used ++ closing :: sign :: openBrace :: (more ++ [closeBrace, semicolon])))
  | branch {condition : Expr} {body : List Stmt} {alternatives : List Clause}
      {otherwise : Option (List Stmt)} {used more last : List Token} :
      Guarded statement .ifWorthy (.mk condition body) used →
      Sequence (Alternative statement) alternatives more → Otherwise statement otherwise last →
      Form (.branch condition body alternatives otherwise) (used ++ (more ++ last))
  | loopWhile {condition : Expr} {body : List Stmt} {used : List Token} :
      Guarded statement .fightUntil (.mk condition body) used →
      Form (.loopWhile condition body) used
  | multiverse {discriminant : Expr} {sections : List (Clause ⊕ List Stmt)}
      {used more : List Token} {first opening closing openBrace closeBrace : Token} :
      first.kind = .multiverse → opening.kind = .openParen → Expression 0 discriminant used →
      closing.kind = .closeParen → openBrace.kind = .openBrace →
      Sequence (Section statement) sections more → closeBrace.kind = .closeBrace →
      -- The cases in order, and the body of the last default.
      Form (.multiverse discriminant (sections.filterMap Sum.getLeft?)
          ((sections.filterMap Sum.getRight?).getLastD []))
        (first :: opening :: (used ++ closing :: openBrace :: (more ++ [closeBrace])))
  | loopRange {start stop : Expr} {step : Option Expr} {body : List Stmt}
      {first opening iterator inWord toWord closing : Token}
      {used more last block : List Token} :
      first.kind = .wakandaForEach → opening.kind = .openParen →
      iterator.kind = .identifier → inWord.kind = .inWord → Expression 0 start used →
      toWord.kind = .toWord → Expression 0 stop more → Optional .stepWord step last →
      closing.kind = .closeParen → Block statement body block →
      Form (.loopRange iterator.text start stop step body)
        (first :: opening :: iterator :: inWord ::
          (used ++ toWord :: (more ++ (last ++ closing :: block))))
  | loopFor {header : Stmt} {condition modification : Expr} {body : List Stmt}
      {first opening semicolon closing : Token} {used more last block : List Token} :
      first.kind = .wakandaFor → opening.kind = .openParen → statement header used →
      Expression 0 condition more → semicolon.kind = .semicolon →
      Expression 0 modification last → closing.kind = .closeParen →
      Block statement body block →
      Form (.loopFor header condition modification body)
        (first :: opening :: (used ++ (more ++ semicolon :: (last ++ closing :: block))))
  | assemble {parameters : List String} {body : List Stmt}
      {first name opening closing : Token} {used block : List Token} :
      first.kind = .assemble → name.kind = .identifier → opening.kind = .openParen →
      Separated Parameter parameters used → closing.kind = .closeParen →
      Block statement body block →
      Form (.assemble name.text parameters body)
        (first :: name :: opening :: (used ++ closing :: block))
  | snap {first semicolon : Token} :
      first.kind = .snap → semicolon.kind = .semicolon → Form (.snap none) [first, semicolon]
  | snapValue {value : Expr} {used : List Token} {first semicolon : Token} :
      first.kind = .snap → Expression 0 value used → semicolon.kind = .semicolon →
      Form (.snap (some value)) (first :: (used ++ [semicolon]))
  | endGame {first semicolon : Token} :
      first.kind = .endGame → semicolon.kind = .semicolon → Form .endGame [first, semicolon]

end Statements

/-- A statement is on the line of its first token. -/
inductive Statement : Stmt → List Token → Prop where
  | mk {action : Action} {first : Token} {rest : List Token} :
      Form Statement action (first :: rest) →
      Statement (.mk first.line action) (first :: rest)

/-- Tokens that are a program. -/
def Script : Program → List Token → Prop := Sequence Statement

end Avenger.Grammar
