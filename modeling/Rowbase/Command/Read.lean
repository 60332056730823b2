import Rowbase.Command

/-!
# Reading commands

`Command.read` takes the tokens of one line for one command with a semicolon at its end. A
condition is a row of terms joined by AND and OR, each joined to all before it, whichever word
joins them; only parentheses group.
-/

namespace Rowbase

/-- The kind of thing that a name is expected to name. -/
inductive Noun where
  | database | table | column
  deriving DecidableEq, Repr

/-- The noun in messages. -/
def Noun.word : Noun → String
  | database => "database"
  | table => "table"
  | column => "attribute"

/-- What should have stood at some place of a command. -/
inductive Expectation where
  | keyword (word : Keyword)
  | symbol (sign : Symbol)
  | name (noun : Noun)
  | literal
  | databaseOrTable
  | addOrDrop
  | comparator (column : String)
  deriving DecidableEq, Repr

/-- The expectation in words. -/
def Expectation.words : Expectation → String
  | keyword word => word.spelling
  | symbol sign => "'" ++ sign.spelling ++ "'"
  | name noun => noun.word ++ " name"
  | literal => "a value"
  | databaseOrTable => "DATABASE or TABLE after DROP"
  | addOrDrop => "ADD or DROP"
  | comparator column => "a comparator after '" ++ column ++ "'"

/-- Why a list of tokens is no command. -/
inductive ParseError where
  | empty
  /-- A word that begins no command. -/
  | unknownCommand (word : String)
  /-- CREATE must say what to create. -/
  | nothingToCreate
  | expected (expectation : Expectation) (found : Option Token)
  | unbalancedParentheses
  /-- A token after the semicolon. -/
  | moreThanOne (next : String)
  deriving DecidableEq, Repr

namespace ParseError

/-- What stands where something else was expected. -/
def describe : Option Token → String
  | some token => "'" ++ token.spelling ++ "'"
  | none => "end of command"

/-- The fault in words. -/
def message : ParseError → String
  | empty => "empty command"
  | unknownCommand word => "unknown command '" ++ word ++ "'"
  | nothingToCreate => "expected DATABASE or TABLE after CREATE"
  | expected expectation found => "expected " ++ expectation.words ++ ", found " ++ describe found
  | unbalancedParentheses => "unbalanced parentheses in condition"
  | moreThanOne next => "unexpected '" ++ next ++ "' after ';', send one command at a time"

end ParseError

/-- A reader takes tokens off the front of those that are left. -/
abbrev Reader := StateT (List Token) (Except ParseError)

namespace Reader

/-- The reader that fails because something else should stand here. -/
def expected {α : Type} (expectation : Expectation) : Reader α :=
  fun tokens => .error (.expected expectation tokens.head?)

/-- Takes the given token off the front if it stands there. -/
def accept (token : Token) : Reader Bool
  | [] => .ok (false, [])
  | first :: rest => if first = token then .ok (true, rest) else .ok (false, first :: rest)

/-- Takes a keyword that must stand here. -/
def keyword (word : Keyword) : Reader Unit := do
  if ← accept (.keyword word) then return () else expected (.keyword word)

/-- Takes a symbol that must stand here. -/
def symbol (sign : Symbol) : Reader Unit := do
  if ← accept (.symbol sign) then return () else expected (.symbol sign)

/-- Takes a name. -/
def name (noun : Noun) : Reader String
  | .name spelling :: rest => .ok (spelling, rest)
  | tokens => expected (.name noun) tokens

/-- Takes a literal. -/
def literal : Reader Literal
  | .text content :: rest => .ok (.text content, rest)
  | .boolean value :: rest => .ok (.boolean value, rest)
  | .integer numeral :: rest => .ok (.integer numeral, rest)
  | .decimal numeral :: rest => .ok (.decimal numeral, rest)
  | .keyword .null :: rest => .ok (.null, rest)
  | tokens => expected .literal tokens

/-- Takes what follows a first item: a link and an item for as long as a link stands next, but
at most the given number of times. -/
def links {α β : Type} (link? : Token → Option β) (item : Reader α) : Nat → Reader (List (β × α))
  | 0, tokens => .ok ([], tokens)
  | _, [] => .ok ([], [])
  | n + 1, token :: rest =>
    match link? token with
    | none => .ok ([], token :: rest)
    | some link => do
      let (next, rest) ← item rest
      let (others, rest) ← links link? item n rest
      .ok ((link, next) :: others, rest)

/-- Takes a first item and all that are linked to it. There are fewer links than tokens. -/
def chain {α β : Type} (link? : Token → Option β) (item : Reader α) :
    Reader (α × List (β × α)) := do
  let first ← item
  let others ← fun tokens => links link? item tokens.length tokens
  return (first, others)

/-- The link of a list. -/
def comma? : Token → Option Unit
  | .symbol .comma => some ()
  | _ => none

/-- Takes items with commas between them, one at least. -/
def list {α : Type} (item : Reader α) : Reader (List α) := do
  let (first, others) ← chain comma? item
  return first :: others.map (·.2)

/-- Takes items with commas between them and the parenthesis that closes the list. -/
def closedList {α : Type} (item : Reader α) : Reader (List α) := do
  let items ← list item
  symbol .closeParen
  return items

/-- The words that join conditions. -/
inductive Connective where
  | and | or
  deriving DecidableEq, Repr

/-- The joining word that a token is. -/
def Connective.ofToken? : Token → Option Connective
  | .keyword .and => some and
  | .keyword .or => some or
  | _ => none

/-- Two conditions joined. -/
def Connective.join : Connective → Condition → Condition → Condition
  | and => .and
  | or => .or

/-- Takes a comparator, which must follow the given column. -/
def comparator (column : String) : Reader Comparator
  | [] => expected (.comparator column) []
  | token :: rest =>
    match Comparator.ofToken? token with
    | some comparator => .ok (comparator, rest)
    | none => expected (.comparator column) (token :: rest)

/-- Takes the parenthesis that closes a condition. -/
def closing : Reader Unit
  | .symbol .closeParen :: rest => .ok ((), rest)
  | _ => .error .unbalancedParentheses

/-- Takes a comparison, or a condition in parentheses, which `inner` reads. -/
def term (inner : Reader Condition) : Reader Condition := do
  if ← accept (.symbol .openParen) then
    let condition ← inner
    closing
    return condition
  else
    let column ← name .column
    let comparator ← comparator column
    return .comparison column comparator (← literal)

/-- Takes a condition in which parentheses are nested less deep than the given number. -/
def conditionWithin : Nat → Reader Condition
  | 0 => fun _ => .error .unbalancedParentheses
  | depth + 1 => do
    let (first, others) ← chain Connective.ofToken? (term (conditionWithin depth))
    return others.foldl (fun left (link, right) => link.join left right) first

/-- Takes a condition. Parentheses are nested less deep than there are tokens. -/
def condition : Reader Condition :=
  fun tokens => conditionWithin (tokens.length + 1) tokens

/-- Takes WHERE and a condition. -/
def whereCondition : Reader Condition := do
  keyword .«where»
  condition

/-- Takes a new value for a column. -/
def assignment : Reader Assignment := do
  let column ← name .column
  symbol .assign
  return { column, literal := ← literal }

/-- Takes what follows CREATE. -/
def create : Reader Command := do
  if ← accept (.keyword .database) then return .createDatabase (← name .database)
  else if ← accept (.keyword .table) then
    let table ← name .table
    if ← accept (.symbol .openParen) then
      return .change (.createTable table (← closedList (name .column)))
    else return .change (.createTable table [])
  else fun _ => .error .nothingToCreate

/-- Takes what follows DROP. -/
def drop : Reader Command := do
  if ← accept (.keyword .database) then return .dropDatabase (← name .database)
  else if ← accept (.keyword .table) then return .change (.dropTable (← name .table))
  else expected .databaseOrTable

/-- Takes what follows ALTER. -/
def alter : Reader Change := do
  keyword .table
  let table ← name .table
  if ← accept (.keyword .add) then return .addColumn table (← name .column)
  else if ← accept (.keyword .drop) then return .dropColumn table (← name .column)
  else expected .addOrDrop

/-- Takes what follows INSERT. -/
def insert : Reader Change := do
  keyword .into
  let table ← name .table
  keyword .values
  symbol .openParen
  return .insert table (← closedList literal)

/-- Takes the columns that are wanted: a star for all of them. -/
def wantedColumns : Reader (Option (List String)) := do
  if ← accept (.symbol .star) then return none else return some (← list (name .column))

/-- Takes what follows SELECT. -/
def select : Reader Query := do
  let columns ← wantedColumns
  keyword .«from»
  let table ← name .table
  if ← accept (.keyword .«where») then
    return .select { table, columns, condition := some (← condition) }
  else return .select { table, columns, condition := none }

/-- Takes what follows UPDATE. -/
def update : Reader Change := do
  let table ← name .table
  keyword .set
  let assignments ← list assignment
  return .update table assignments (← whereCondition)

/-- Takes what follows DELETE. -/
def delete : Reader Change := do
  keyword .«from»
  let table ← name .table
  return .delete table (← whereCondition)

/-- Takes what follows JOIN. -/
def join : Reader Query := do
  let leftTable ← name .table
  keyword .and
  let rightTable ← name .table
  keyword .on
  let leftColumn ← name .column
  keyword .and
  let rightColumn ← name .column
  return .join { leftTable, rightTable, leftColumn, rightColumn }

/-- Takes what follows the first word of a command, if that word begins one. -/
def body : Keyword → Reader Command
  | .use => return .use (← name .database)
  | .create => create
  | .drop => drop
  | .alter => return .change (← alter)
  | .insert => return .change (← insert)
  | .select => return .query (← select)
  | .update => return .change (← update)
  | .delete => return .change (← delete)
  | .join => return .query (← join)
  | word => fun _ => .error (.unknownCommand word.spelling)

/-- Takes a command up to its semicolon. -/
def command : Reader Command
  | [] => .error .empty
  | .keyword word :: rest => (do
      let command ← body word
      symbol .semicolon
      return command : Reader Command) rest
  | token :: _ => .error (.unknownCommand token.spelling)

end Reader

/-- The command that a list of tokens is. -/
def Command.read (tokens : List Token) : Except ParseError Command :=
  match Reader.command tokens with
  | .error fault => .error fault
  | .ok (command, []) => .ok command
  | .ok (_, next :: _) => .error (.moreThanOne next.spelling)

end Rowbase
