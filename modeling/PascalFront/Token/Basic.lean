import PascalFront.Position
/-!
# Tokens

A token is a kind and a text. The kind of a word is that of the keyword it
spells, in whatever letter case, and otherwise that of an identifier. For a
string literal the text is the string it denotes, for every other token the
characters as they stand in the source.
-/

namespace PascalFront

/-- **The kinds of tokens.** -/
inductive Kind where
  | programKeyword | beginKeyword | endKeyword | varKeyword | procedureKeyword | functionKeyword
  | ifKeyword | thenKeyword | elseKeyword | whileKeyword | doKeyword
  | forKeyword | toKeyword | downtoKeyword
  | integerType | realType | stringType | booleanType
  | number | text | trueLiteral | falseLiteral
  | identifier
  | semicolon | colon | comma | dot | assign | openParen | closeParen
  | plus | minus | times | divide
  | equal | notEqual | less | greater | lessEqual | greaterEqual
  | endOfInput
  deriving DecidableEq, Repr

namespace Kind

/-- Every kind and the name it is listed under. -/
def names : List (Kind × String) := [
  (programKeyword, "PROGRAM"), (beginKeyword, "BEGIN"), (endKeyword, "END"),
  (varKeyword, "VAR"), (procedureKeyword, "PROCEDURE"), (functionKeyword, "FUNCTION"),
  (ifKeyword, "IF"), (thenKeyword, "THEN"), (elseKeyword, "ELSE"),
  (whileKeyword, "WHILE"), (doKeyword, "DO"),
  (forKeyword, "FOR"), (toKeyword, "TO"), (downtoKeyword, "DOWNTO"),
  (integerType, "INTEGER"), (realType, "REAL"), (stringType, "STRING"),
  (booleanType, "BOOLEAN"),
  (number, "NUMBER"), (text, "STRING_LITERAL"), (trueLiteral, "TRUE"), (falseLiteral, "FALSE"),
  (identifier, "IDENTIFIER"),
  (semicolon, "SEMICOLON"), (colon, "COLON"), (comma, "COMMA"), (dot, "DOT"),
  (assign, "ASSIGN"), (openParen, "LPAREN"), (closeParen, "RPAREN"),
  (plus, "PLUS"), (minus, "MINUS"), (times, "MULTIPLY"), (divide, "DIVIDE"),
  (equal, "EQUALS"), (notEqual, "NOT_EQUALS"), (less, "LESS_THAN"), (greater, "GREATER_THAN"),
  (lessEqual, "LESS_EQUALS"), (greaterEqual, "GREATER_EQUALS"),
  (endOfInput, "EOF")]

/-- The name of a kind. -/
def name (kind : Kind) : String := (names.lookup kind).getD ""

/-- The kind of a name. -/
def ofName? (name : String) : Option Kind :=
  (names.find? fun entry => entry.2 = name).map Prod.fst

/-- Each kind is found under its name. -/
@[simp] theorem ofName?_name (kind : Kind) : ofName? kind.name = some kind := by
  cases kind <;> decide

/-- The keywords, in lower case. -/
def keywords : List (String × Kind) := [
  ("program", programKeyword), ("begin", beginKeyword), ("end", endKeyword),
  ("var", varKeyword), ("procedure", procedureKeyword), ("function", functionKeyword),
  ("if", ifKeyword), ("then", thenKeyword), ("else", elseKeyword),
  ("while", whileKeyword), ("do", doKeyword),
  ("for", forKeyword), ("to", toKeyword), ("downto", downtoKeyword),
  ("integer", integerType), ("real", realType), ("string", stringType),
  ("boolean", booleanType), ("true", trueLiteral), ("false", falseLiteral)]

/-- A word with its ASCII letters in lower case. No other character has a
lower-case form that occurs in a keyword. -/
def lowered (word : List Char) : String := String.ofList (word.map Char.toLower)

/-- **The kind of a word.** -/
def ofWord (word : List Char) : Kind := (keywords.lookup (lowered word)).getD identifier

/-- The operators and punctuation marks of one character. -/
def ofMark? : Char → Option Kind
  | '+' => some plus
  | '-' => some minus
  | '*' => some times
  | '/' => some divide
  | '=' => some equal
  | '<' => some less
  | '>' => some greater
  | ';' => some semicolon
  | ':' => some colon
  | ',' => some comma
  | '.' => some dot
  | '(' => some openParen
  | ')' => some closeParen
  | _ => none

/-- The operators of two characters. -/
def ofMarks? : Char → Char → Option Kind
  | '<', '>' => some notEqual
  | '<', '=' => some lessEqual
  | '>', '=' => some greaterEqual
  | ':', '=' => some assign
  | _, _ => none

/-- The kinds that name a type by a keyword. -/
def isTypeName (kind : Kind) : Bool :=
  kind ∈ [integerType, realType, stringType, booleanType]

/-- The comparison operators. -/
def isComparison (kind : Kind) : Bool :=
  kind ∈ [equal, notEqual, less, greater, lessEqual, greaterEqual]

/-- How tightly an operator between two operands binds; none for what is no
such operator. -/
def rank? (kind : Kind) : Option Nat :=
  if kind.isComparison then some 1
  else if kind = plus ∨ kind = minus then some 2
  else if kind = times ∨ kind = divide then some 3
  else none

/-- How tightly a sign binds: tighter than any operator between operands. -/
def signRank : Nat := 4

end Kind

/-- **A token**, with its place in the source if it has one. -/
structure Token where
  /-- The kind. -/
  kind : Kind
  /-- The text, or the string that a string literal denotes. -/
  value : String
  /-- Where the token begins. -/
  start : Option Position := none
  /-- Just past the last character of the token. -/
  stop : Option Position := none
  deriving DecidableEq, Repr

namespace Token

/-- Where a token begins; zero if that is not known. -/
def startPosition (t : Token) : Position := t.start.getD .zero

/-- Where a token ends, or else where it begins; zero if neither is known. -/
def stopPosition (t : Token) : Position := (t.stop <|> t.start).getD .zero

/-- The span of a token. -/
def span (t : Token) : Span := .between t.startPosition t.stopPosition

/-- Whether a token is the end of the input. -/
def isEnd (t : Token) : Bool := t.kind = .endOfInput

/-- The end of the input at a position. -/
def endAt (position : Option Position) : Token := ⟨.endOfInput, "", position, position⟩

@[simp] theorem isEnd_endAt (position : Option Position) : (endAt position).isEnd = true := rfl

end Token

end PascalFront
