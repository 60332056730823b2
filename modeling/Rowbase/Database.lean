import Rowbase.NameMap
import Rowbase.Table

/-!
# Databases

A database is a named collection of tables. A table is kept under the key of its name, so
names of tables are unique without regard to case; each table keeps the spelling it was
created with.
-/

namespace Rowbase

/-- A named collection of tables. -/
structure Database where
  name : String
  tables : NameMap Table
  deriving DecidableEq, Repr

namespace Database

/-- A database without tables. -/
def create (name : String) : Database where
  name
  tables := .empty

/-- The table of the given name. -/
def table (database : Database) (name : String) : Except Error Table :=
  match database.tables.find? (Name.key name) with
  | some table => .ok table
  | none => .error (.unknownTable name)

/-- The names of the tables in ascending order. -/
def tableNames (database : Database) : List String :=
  (database.tables.values.map (·.name)).mergeSort

/-- The database with another table under the given name. -/
def put (database : Database) (name : String) (table : Table) : Database :=
  { database with tables := database.tables.insert (Name.key name) table }

/-- Creates a table, whose name must be free. -/
def createTable (database : Database) (name : String) (columns : List String) :
    Except Error Database := do
  if database.tables.contains (Name.key name) then throw (.tableExists name)
  return database.put name (← Table.create name columns)

/-- Removes a table and all its rows. -/
def dropTable (database : Database) (name : String) : Except Error Database := do
  let _ ← database.table name
  return { database with tables := database.tables.erase (Name.key name) }

/-- Puts what an operation leaves of a table in that table's place, and returns its other result. -/
def onTable {α : Type} (database : Database) (name : String)
    (operation : Table → Except Error (Table × α)) : Except Error (Database × α) := do
  let (table, result) ← operation (← database.table name)
  return (database.put name table, result)

/-- Adds a column to a table. -/
def addColumn (database : Database) (table column : String) : Except Error Database := do
  return database.put table (← (← database.table table).addColumn column)

/-- Takes a column out of a table. -/
def dropColumn (database : Database) (table column : String) : Except Error Database := do
  return database.put table (← (← database.table table).dropColumn column)

/-- The database that a change leaves. -/
def change (database : Database) : Change → Except Error Database
  | .createTable table columns => database.createTable table columns
  | .dropTable table => database.dropTable table
  | .addColumn table column => database.addColumn table column
  | .dropColumn table column => database.dropColumn table column
  | .insert table values => return (← database.onTable table (·.insert values)).1
  | .update table assignments condition =>
    return (← database.onTable table (·.update assignments condition)).1
  | .delete table condition => return (← database.onTable table (·.delete condition)).1

/-- Whether every table is kept under the key of its name and is consistent. -/
def isConsistent (database : Database) : Bool :=
  database.tables.entries.all fun (key, table) => key = Name.key table.name && table.isConsistent

end Database

end Rowbase
