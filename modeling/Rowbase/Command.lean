import Rowbase.Condition

/-!
# Commands

A command chooses, makes or drops a database, changes the current database, or asks it a question.
Only `USE` and the questions leave every database as it is.
-/

namespace Rowbase

/-- A new value for a column. -/
structure Assignment where
  column : String
  literal : Literal
  deriving DecidableEq, Repr

/-- The rows of a table that satisfy a condition, and the columns wanted of them; no list of columns
asks for all of them, and no condition for all rows. -/
structure Selection where
  table : String
  columns : Option (List String)
  condition : Option Condition
  deriving DecidableEq, Repr

/-- The pairs of rows of two tables that agree in a column of each. -/
structure Join where
  leftTable : String
  rightTable : String
  leftColumn : String
  rightColumn : String
  deriving DecidableEq, Repr

/-- A question to the current database. -/
inductive Query where
  | select (selection : Selection)
  | join (join : Join)
  deriving DecidableEq, Repr

/-- A change to the current database. -/
inductive Change where
  | createTable (table : String) (columns : List String)
  | dropTable (table : String)
  | addColumn (table : String) (column : String)
  | dropColumn (table : String) (column : String)
  | insert (table : String) (values : List Literal)
  | update (table : String) (assignments : List Assignment) (condition : Condition)
  | delete (table : String) (condition : Condition)
  deriving DecidableEq, Repr

/-- What one line asks for. -/
inductive Command where
  | use (database : String)
  | createDatabase (database : String)
  | dropDatabase (database : String)
  | change (change : Change)
  | query (query : Query)
  deriving DecidableEq, Repr

/-- Whether a command can change what is stored. -/
def Command.mutates : Command → Bool
  | use _ | query _ => false
  | createDatabase _ | dropDatabase _ | change _ => true

end Rowbase
