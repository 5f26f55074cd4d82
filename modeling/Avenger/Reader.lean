import Avenger.SyntaxError

/-!
# Readers

A reader takes something off the front of a list of tokens, or finds a syntax error.  It
sees one token at a time and never past the end of file, which stands apart from the tokens
before it.  A budget bounds the turns of a loop and the depth of a recursion.  Every turn
and every step inward takes a token first, so a budget of one more than the tokens is never
used up.
-/

namespace Avenger

/-- Why a reader stops without a result.  Running out of budget says nothing about the
tokens. -/
inductive Reader.Stop where
  | error (error : SyntaxError)
  | outOfBudget

/-- What stays the same while tokens are read. -/
structure Reader.Setting where
  /-- The end of file, which stands after all other tokens. -/
  finish : Token
  /-- The most turns that a loop makes, and the most steps inward. -/
  budget : Nat

/-- A reader of `α`: given the tokens before the end of file, the result and the tokens
that are left. -/
def Reader (α : Type) : Type :=
  Reader.Setting → List Token → Except Reader.Stop (α × List Token)

namespace Reader

instance : Monad Reader where
  pure result := fun _ tokens => .ok (result, tokens)
  bind first next := fun setting tokens =>
    match first setting tokens with
    | .ok (result, rest) => next result setting rest
    | .error stop => .error stop

/-- The reader that has used up its budget. -/
def outOfBudget {α : Type} : Reader α := fun _ _ => .error .outOfBudget

/-- The reader that finds a fault on a line. -/
def fail {α : Type} (line : Nat) (fault : SyntaxFault) : Reader α :=
  fun _ _ => .error (.error ⟨line, fault⟩)

/-- The next token, which stays where it is. -/
def peek : Reader Token :=
  fun setting tokens => .ok (tokens.headD setting.finish, tokens)

/-- Steps over the next token. -/
def advance : Reader Unit := fun _ tokens => .ok ((), tokens.tail)

/-- Takes a token of the given kind. -/
def expect (kind : Token.Kind) (expectation : String) : Reader Token := do
  let token ← peek
  if token.kind = kind then
    advance
    return token
  else fail token.line (.missing expectation token.text)

/-- Steps over a token of the given kind if one is next, and says whether there was one. -/
def skip? (kind : Token.Kind) : Reader Bool := do
  let token ← peek
  if token.kind = kind then
    advance
    return true
  else return false

/-- Applies `step` as long as `more` holds of the value so far and the next token, at most
the given number of times. -/
def foldTurns {α : Type} (more : α → Token → Bool) (step : α → Reader α) :
    Nat → α → Reader α
  | turns, value => fun setting tokens =>
      if more value (tokens.headD setting.finish) then
        match turns with
        | 0 => .error .outOfBudget
        | turns + 1 =>
            match step value setting tokens with
            | .ok (value, rest) => foldTurns more step turns value setting rest
            | .error stop => .error stop
      else .ok (value, tokens)

/-- Applies `step` as long as `more` holds of the value so far and the next token. -/
def foldWhile {α : Type} (more : α → Token → Bool) (step : α → Reader α) (value : α) :
    Reader α :=
  fun setting tokens => foldTurns more step setting.budget value setting tokens

/-- Reads items as long as the next token is of none of the given kinds. -/
def itemsUntil {α : Type} (stops : List Token.Kind) (item : Reader α) : Reader (List α) := do
  let items ← foldWhile (fun _ token => !stops.contains token.kind)
    (fun items => do return (← item) :: items) []
  return items.reverse

/-- Reads items with a comma between each two. -/
def separated {α : Type} (item : Reader α) : Reader (List α) := do
  let first ← item
  let items ← foldWhile (fun _ token => token.kind = .comma)
    (fun items => do
      advance
      return (← item) :: items) [first]
  return items.reverse

/-- The tokens before the first end of file. -/
def before (tokens : List Token) : List Token := tokens.takeWhile (·.kind != .endOfFile)

/-- The first end of file; a missing one stands on the line of the last token. -/
def finish (tokens : List Token) : Token :=
  (tokens.find? (·.kind == .endOfFile)).getD
    (Token.endOfFile (tokens.getLast?.elim 1 (·.line)))

/-- Runs a reader, with a budget, over tokens that may lack an end of file or go on after
it. -/
def runWithin {α : Type} (budget : Nat) (reader : Reader α) (tokens : List Token) :
    Except Stop α :=
  (reader ⟨finish tokens, budget⟩ (before tokens)).map (·.1)

/-- Runs a reader with a budget that is not used up. -/
def run {α : Type} (reader : Reader α) (tokens : List Token) : Except Stop α :=
  runWithin ((before tokens).length + 1) reader tokens

end Reader

end Avenger
