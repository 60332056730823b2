/-!
# Tokens

A command line is read as a list of tokens. Reserved words and symbols are closed sets; the other
tokens carry their text, numerals with their sign and every digit as written.
-/

namespace Rowbase

/-- A reserved word. -/
inductive Keyword where
  | use | create | drop | alter | insert | select | update | delete | join | into | values
  | «from» | «where» | set | add | on | and | or | like | table | database | null
  deriving DecidableEq, Repr

namespace Keyword

/-- Every reserved word, the ones that begin a command first. -/
def all : List Keyword :=
  [use, create, drop, alter, insert, select, update, delete, join, into, values,
    «from», «where», set, add, on, and, or, like, table, database, null]

/-- The canonical spelling, in capitals. -/
def spelling : Keyword → String
  | use => "USE"
  | create => "CREATE"
  | drop => "DROP"
  | alter => "ALTER"
  | insert => "INSERT"
  | select => "SELECT"
  | update => "UPDATE"
  | delete => "DELETE"
  | join => "JOIN"
  | into => "INTO"
  | values => "VALUES"
  | «from» => "FROM"
  | «where» => "WHERE"
  | set => "SET"
  | add => "ADD"
  | on => "ON"
  | and => "AND"
  | or => "OR"
  | like => "LIKE"
  | table => "TABLE"
  | database => "DATABASE"
  | null => "NULL"

/-- The reserved word with the given canonical spelling. -/
def ofSpelling? (text : String) : Option Keyword :=
  all.find? fun keyword => keyword.spelling = text

theorem mem_all (keyword : Keyword) : keyword ∈ all := by
  cases keyword <;> decide

end Keyword

/-- Punctuation or a comparison sign. -/
inductive Symbol where
  | openParen | closeParen | comma | semicolon | star
  | assign | equal | notEqual | greater | atLeast | less | atMost
  deriving DecidableEq, Repr

/-- A symbol as it is written. -/
def Symbol.spelling : Symbol → String
  | openParen => "("
  | closeParen => ")"
  | comma => ","
  | semicolon => ";"
  | star => "*"
  | assign => "="
  | equal => "=="
  | notEqual => "!="
  | greater => ">"
  | atLeast => ">="
  | less => "<"
  | atMost => "<="

/-- The symbol that a character is on its own, whatever follows it. -/
def Symbol.single? : Char → Option Symbol
  | '(' => some openParen
  | ')' => some closeParen
  | ',' => some comma
  | ';' => some semicolon
  | '*' => some star
  | _ => none

/-- The smallest meaningful unit of a command. -/
inductive Token where
  | keyword (word : Keyword)
  /-- The name of a database, a table or an attribute. -/
  | name (text : String)
  /-- The content of a quoted span, without its quotes. -/
  | text (content : String)
  /-- A whole number, as written. -/
  | integer (text : String)
  /-- A number with a decimal point, as written. -/
  | decimal (text : String)
  | symbol (sign : Symbol)
  | boolean (value : Bool)
  deriving DecidableEq, Repr

/-- A truth value in its canonical spelling, in capitals. -/
def spellBoolean : Bool → String
  | true => "TRUE"
  | false => "FALSE"

/-- The text by which messages refer to a token. -/
def Token.spelling : Token → String
  | .keyword word => word.spelling
  | .symbol sign => sign.spelling
  | .boolean value => spellBoolean value
  | .name s | .text s | .integer s | .decimal s => s

end Rowbase
