/-!
# Tokens

A token is a kind, the characters it was read from and the line it starts on.  The two
tables of this module fix the spellings: words that are a kind of their own, and symbols.
Every other word is an identifier.
-/

namespace Avenger

namespace Token

/-- The kinds of tokens. -/
inductive Kind where
  | null
  | number
  | identifier
  | string
  | newAvenger
  | newEternal
  | ifWorthy
  | otherwise
  | fightUntil
  | endGame
  | team
  | multiverse
  | madness
  | default
  | wakandaForEach
  | wakandaFor
  | assemble
  | snap
  | inWord
  | toWord
  | stepWord
  /-- A word that other languages use for what this one calls differently. -/
  | reserved
  | minus
  | equals
  | compoundAssign
  | semicolon
  | comma
  | dot
  | colon
  | arithmetic
  | logical
  | comparison
  | not
  | openParen
  | closeParen
  | openBrace
  | closeBrace
  | openBracket
  | closeBracket
  | endOfFile
  deriving DecidableEq

namespace Kind

/-- The name of a kind in a token listing. -/
def label : Kind → String
  | null => "Null"
  | number => "Number"
  | identifier => "Identifier"
  | string => "String"
  | newAvenger => "NewAvenger"
  | newEternal => "NewEternal"
  | ifWorthy => "Worthy"
  | otherwise => "Otherwise"
  | fightUntil => "FightUntil"
  | endGame => "EndGame"
  | team => "Team"
  | multiverse => "Multiverse"
  | madness => "Madness"
  | default => "Default"
  | wakandaForEach => "WakandaForEach"
  | wakandaFor => "WakandaFor"
  | assemble => "Assemble"
  | snap => "Snap"
  | inWord => "In"
  | toWord => "To"
  | stepWord => "Step"
  | reserved => "Reserved"
  | minus => "Minus"
  | equals => "Equals"
  | compoundAssign => "CompoundAssign"
  | semicolon => "Semicolon"
  | comma => "Comma"
  | dot => "Dot"
  | colon => "Colon"
  | arithmetic => "BinaryOperator"
  | logical => "LogicalOperator"
  | comparison => "ComparisonOperator"
  | not => "Not"
  | openParen => "OpenParen"
  | closeParen => "CloseParen"
  | openBrace => "OpenBrace"
  | closeBrace => "CloseBrace"
  | openBracket => "OpenBracket"
  | closeBracket => "CloseBracket"
  | endOfFile => "Eof"

/-- Every kind. -/
def all : List Kind :=
  [null, number, identifier, string, newAvenger, newEternal, ifWorthy, otherwise, fightUntil,
   endGame, team, multiverse, madness, default, wakandaForEach, wakandaFor, assemble, snap,
   inWord, toWord, stepWord, reserved, minus, equals, compoundAssign, semicolon, comma, dot,
   colon, arithmetic, logical, comparison, not, openParen, closeParen, openBrace, closeBrace,
   openBracket, closeBracket, endOfFile]

/-- The kind with the given name in a token listing. -/
def ofLabel? (name : String) : Option Kind := all.find? (·.label == name)

/-- No two kinds have the same name. -/
theorem ofLabel?_label (kind : Kind) : ofLabel? kind.label = some kind := by
  cases kind <;> decide

end Kind

end Token

/-- A token with the line it starts on.  The text of a string is what stands between its
quotes. -/
structure Token where
  kind : Token.Kind
  text : String
  line : Nat
  deriving DecidableEq

namespace Token

/-- Words that other languages use, each with the word of this language that stands for
it. -/
def reservedWords : List (String × String) :=
  [("if", "ifWorthy"), ("else", "otherwise"), ("while", "fightUntil"), ("for", "wakandaFor"),
   ("switch", "multiverse"), ("case", "madness"), ("let", "newAvenger"),
   ("const", "newEternal"), ("return", "snap"), ("break", "endGame"), ("true", "SHIELD"),
   ("false", "HYDRA")]

/-- The words that are a kind of their own. -/
def keywords : List (String × Kind) :=
  [("null", .null), ("newAvenger", .newAvenger), ("newEternal", .newEternal),
   ("ifWorthy", .ifWorthy), ("otherwise", .otherwise), ("fightUntil", .fightUntil),
   ("endGame", .endGame), ("team", .team), ("multiverse", .multiverse),
   ("madness", .madness), ("default", .default), ("wakandaForEach", .wakandaForEach),
   ("wakandaFor", .wakandaFor), ("assemble", .assemble), ("snap", .snap), ("in", .inWord),
   ("to", .toWord), ("step", .stepWord), ("and", .logical), ("or", .logical)] ++
  reservedWords.map fun word => (word.1, .reserved)

/-- The symbols.  A symbol stands before every shorter one that it starts with. -/
def symbols : List (String × Kind) :=
  [("<MINUS>", .minus), ("<=", .comparison), (">=", .comparison), ("==", .comparison),
   ("!=", .comparison), ("&&", .logical), ("||", .logical), ("+=", .compoundAssign),
   ("-=", .compoundAssign), ("*=", .compoundAssign), ("/=", .compoundAssign),
   ("%=", .compoundAssign), ("^=", .compoundAssign), ("<", .comparison), (">", .comparison),
   ("=", .equals), ("!", .not), ("+", .arithmetic), ("-", .arithmetic), ("*", .arithmetic),
   ("/", .arithmetic), ("%", .arithmetic), ("^", .arithmetic), (";", .semicolon),
   (",", .comma), (".", .dot), (":", .colon), ("(", .openParen), (")", .closeParen),
   ("\x7b", .openBrace), ("\x7d", .closeBrace), ("[", .openBracket), ("]", .closeBracket)]

/-- The word of this language that stands for a reserved word. -/
def suggestion? (word : String) : Option String := reservedWords.lookup word

/-- The kind of a word. -/
def kindOfWord (word : String) : Kind := (keywords.lookup word).getD .identifier

/-- The token that ends every list of tokens. -/
def endOfFile (line : Nat) : Token := ⟨.endOfFile, "EndOfFile", line⟩

end Token

end Avenger
