import Avenger.Token
import Avenger.Text.Quoted

/-!
# Token listings

Tokens as an indented list of objects in JSON, with their fields in the order of their
names.
-/

namespace Avenger.Listing

/-- A character of a JSON text between its quotes. -/
def escape (character : Char) : List Char :=
  if character == '"' then ['\\', '"']
  else if character == '\\' then ['\\', '\\']
  else if character == '\x08' then ['\\', 'b']
  else if character == '\x0c' then ['\\', 'f']
  else if character == '\n' then ['\\', 'n']
  else if character == '\r' then ['\\', 'r']
  else if character == '\t' then ['\\', 't']
  else if character.toNat < 0x20 then
    let digits := Text.hexDigits character.toNat
    ['\\', 'u'] ++ List.replicate (4 - digits.length) '0' ++ digits
  else [character]

/-- A JSON text. -/
def jsonText (text : String) : String :=
  String.ofList ('"' :: (text.toList.flatMap escape ++ ['"']))

/-- The object of one token. -/
def entry (token : Token) : String :=
  "  \x7b\n    \"line\": " ++ toString token.line ++ ",\n    \"type\": " ++
    jsonText token.kind.label ++ ",\n    \"value\": " ++ jsonText token.text ++ "\n  \x7d"

/-- The listing of tokens, of which there is always one. -/
def ofTokens (tokens : List Token) : String :=
  "[\n" ++ ",\n".intercalate (tokens.map entry) ++ "\n]\n"

end Avenger.Listing
