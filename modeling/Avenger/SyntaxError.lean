import Avenger.Token

/-!
# Syntax errors

Why a text is not a program, and on which line that shows.
-/

namespace Avenger

/-- Why a text is not a program. -/
inductive SyntaxFault where
  /-- A quote without another one after it. -/
  | unterminatedString
  /-- A character that starts no token. -/
  | unrecognized (character : Char)
  /-- Something was required and the token with the text `found` stood there. -/
  | missing (expectation : String) (found : String)
  /-- No expression starts with the token with the text `found`. -/
  | unexpected (found : String)
  /-- A word of other languages. -/
  | reservedWord (word : String)
  | unknownOperator (symbol : String)
  | invalidNumber (text : String)
  | uninitializedConstant (name : String)
  /-- Something else than a case in a multiverse. -/
  | strayInMultiverse
  deriving DecidableEq

/-- The text that describes a fault. -/
def SyntaxFault.message : SyntaxFault → String
  | unterminatedString => "unterminated string literal"
  | unrecognized character => "unrecognized character '" ++ character.toString ++ "'"
  | missing expectation found => expectation ++ ", instead scanned '" ++ found ++ "'"
  | unexpected found => "unexpected token found while parsing, scanned '" ++ found ++ "'"
  | reservedWord word =>
      let complaint := "found an unexpected token '" ++ word ++ "'"
      match Token.suggestion? word with
      | some hint => complaint ++ ", did you mean '" ++ hint ++ "'"
      | none => complaint
  | unknownOperator symbol => "unknown operator '" ++ symbol ++ "'"
  | invalidNumber text => "invalid number '" ++ text ++ "'"
  | uninitializedConstant name => "must assign value to constant expression " ++ name
  | strayInMultiverse => "expected 'madness' or 'default' inside 'multiverse' statement"

/-- A fault with the line of the token or character where it shows. -/
structure SyntaxError where
  line : Nat
  fault : SyntaxFault
  deriving DecidableEq

/-- The full text of a syntax error. -/
def SyntaxError.message (error : SyntaxError) : String :=
  "SyntaxError:line:" ++ toString error.line ++ ": " ++ error.fault.message

end Avenger
