import Rowbase.Command
import Rowbase.Token.Write

/-!
# Writing commands

The tokens of a command. In a condition, what stands left of a joining word is written as it
is, since reading joins to the left, and what stands right of it is put in parentheses if it
is itself joined.
-/

namespace Rowbase

/-- The token of a literal. -/
def Literal.token : Literal → Token
  | null => .keyword .null
  | boolean value => .boolean value
  | integer numeral => .integer numeral
  | decimal numeral => .decimal numeral
  | text content => .text content

/-- The token of a comparator. -/
def Comparator.token : Comparator → Token
  | equal => .symbol .equal
  | notEqual => .symbol .notEqual
  | greater => .symbol .greater
  | less => .symbol .less
  | atLeast => .symbol .atLeast
  | atMost => .symbol .atMost
  | like => .keyword .like

namespace Condition

/-- Whether a condition is joined of two. -/
def isJoined : Condition → Bool
  | comparison .. => false
  | and .. | or .. => true

/-- Tokens in parentheses if so asked. -/
def parenthesized (asked : Bool) (tokens : List Token) : List Token :=
  if asked then .symbol .openParen :: tokens ++ [.symbol .closeParen] else tokens

/-- The tokens of a condition. -/
def tokens : Condition → List Token
  | comparison column comparator literal => [.name column, comparator.token, literal.token]
  | and left right => left.tokens ++ .keyword .and :: parenthesized right.isJoined right.tokens
  | or left right => left.tokens ++ .keyword .or :: parenthesized right.isJoined right.tokens

end Condition

namespace Command

/-- Items with commas between them. -/
def commaSeparated (items : List (List Token)) : List Token :=
  List.flatten (items.intersperse [.symbol .comma])

/-- Names with commas between them. -/
def names (columns : List String) : List Token :=
  commaSeparated (columns.map fun column => [.name column])

/-- Tokens in parentheses. -/
def inParens (tokens : List Token) : List Token :=
  .symbol .openParen :: tokens ++ [.symbol .closeParen]

/-- The tokens of an assignment. -/
def assignmentTokens (assignment : Assignment) : List Token :=
  [.name assignment.column, .symbol .assign, assignment.literal.token]

/-- The tokens of a change, without the semicolon. -/
def changeTokens : Change → List Token
  | .createTable table columns =>
    [.keyword .create, .keyword .table, .name table]
      ++ if columns.isEmpty then [] else inParens (names columns)
  | .dropTable table => [.keyword .drop, .keyword .table, .name table]
  | .addColumn table column =>
    [.keyword .alter, .keyword .table, .name table, .keyword .add, .name column]
  | .dropColumn table column =>
    [.keyword .alter, .keyword .table, .name table, .keyword .drop, .name column]
  | .insert table values =>
    [.keyword .insert, .keyword .into, .name table, .keyword .values]
      ++ inParens (commaSeparated (values.map fun literal => [literal.token]))
  | .update table assignments condition =>
    [.keyword .update, .name table, .keyword .set]
      ++ commaSeparated (assignments.map assignmentTokens)
      ++ .keyword .«where» :: condition.tokens
  | .delete table condition =>
    [.keyword .delete, .keyword .«from», .name table, .keyword .«where»] ++ condition.tokens

/-- The tokens of a query, without the semicolon. -/
def queryTokens : Query → List Token
  | .select selection =>
    .keyword .select :: (selection.columns.map names).getD [.symbol .star]
      ++ [.keyword .«from», .name selection.table]
      ++ match selection.condition with
        | some condition => .keyword .«where» :: condition.tokens
        | none => []
  | .join join =>
    [.keyword .join, .name join.leftTable, .keyword .and, .name join.rightTable, .keyword .on,
      .name join.leftColumn, .keyword .and, .name join.rightColumn]

/-- The tokens of a command. -/
def tokens (command : Command) : List Token :=
  (match command with
    | .use database => [.keyword .use, .name database]
    | .createDatabase database => [.keyword .create, .keyword .database, .name database]
    | .dropDatabase database => [.keyword .drop, .keyword .database, .name database]
    | .change asked => changeTokens asked
    | .query asked => queryTokens asked) ++ [.symbol .semicolon]

/-- The line of a command. -/
def write (command : Command) : String :=
  Token.write command.tokens

end Command

end Rowbase
