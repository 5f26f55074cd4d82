import Avenger.Reader.Statement
import Avenger.Token.Lexer

/-!
# Reading programs

A program is read from tokens by `Program.ofTokens` and from a text by `Program.ofSource`.
-/

namespace Avenger

/-- Statements up to the end of file. -/
def Reader.program : Reader Program := Reader.itemsUntil [.endOfFile] Reader.statement

/-- The program that tokens denote, or the first syntax error in them.  Readers have a
budget that suffices for every list of tokens, so the last case does not arise. -/
def Program.ofTokens (tokens : List Token) : Except SyntaxError Program :=
  match Reader.program.run tokens with
  | .ok program => .ok program
  | .error (.error error) => .error error
  | .error .outOfBudget => .error ⟨0, .unexpected ""⟩

/-- The program that a text denotes, or the first syntax error in it.  An error in the
tokens comes before every error in their order. -/
def Program.ofSource (source : String) : Except SyntaxError Program := do
  Program.ofTokens (← Token.lex source)

end Avenger
