import Rowbase.Database
import Rowbase.Json.Read
import Rowbase.Json.Write

/-!
# Databases as documents

A database is stored as a JSON document. `Database.write` lists the fields of databases and
tables in a fixed order; `Database.read?` takes them in any order, once each, beside other
fields, or as bare lists in the fixed order.
-/

namespace Rowbase

/-- The only value that a key has among some members. -/
def Json.only? (members : List (String × Json)) (key : String) : Option Json :=
  match members.filter fun member => member.1 = key with
  | [(_, value)] => some value
  | _ => none

/-- The fields of a record: of an object the members with the given keys, and of an array all
items, if they are as many. -/
def Json.record? (keys : List String) : Json → Option (List Json)
  | object members => keys.mapM (only? members)
  | array items => if items.length = keys.length then some items else none
  | _ => none

/-- The content of a text. -/
def Json.text? : Json → Option String
  | text content => some content
  | _ => none

/-- The items of an array, each read in the given way. -/
def Json.list? {α : Type} (item? : Json → Option α) : Json → Option (List α)
  | array items => items.mapM item?
  | _ => none

namespace Table

/-- The first identity beyond 64 bits. -/
def idLimit : Nat :=
  Nat.pow 2 64

/-- The identity that a number is: a whole number of 64 bits without sign, point and exponent. -/
def nextId? : Json → Option Nat
  | .number numeral =>
    let digits := numeral.toList
    let id := Decimal.ofDigits digits
    if digits.all Char.isDigit && id < idLimit then some id else none
  | _ => none

/-- The fields of a table, in order. -/
def fieldNames : List String :=
  ["name", "attributes", "rows", "next_id"]

/-- The table that a value is. -/
def ofJson? (json : Json) : Option Table := do
  match ← json.record? fieldNames with
  | [name, columns, rows, nextId] =>
    return {
      name := ← name.text?
      columns := ← columns.list? Json.text?
      rows := ← rows.list? (Json.list? Json.text?)
      nextId := ← nextId? nextId }
  | _ => none

/-- A list of texts as a value. -/
def textsToJson (texts : List String) : Json :=
  .array (texts.map .text)

/-- A table as a value. -/
def toJson (table : Table) : Json :=
  .object [
    ("name", .text table.name),
    ("attributes", textsToJson table.columns),
    ("rows", .array (table.rows.map textsToJson)),
    ("next_id", .number (toString table.nextId))]

end Table

namespace Database

/-- The fields of a database, in order. -/
def fieldNames : List String :=
  ["name", "tables"]

/-- The tables of an object by key. Of a key that repeats the last table counts. -/
def tablesOfJson? : Json → Option (NameMap Table)
  | .object members =>
    (members.mapM fun member => (Table.ofJson? member.2).map fun table => (member.1, table)).map
      NameMap.ofList
  | _ => none

/-- The database that a value is. -/
def ofJson? (json : Json) : Option Database := do
  match ← json.record? fieldNames with
  | [name, tables] => return { name := ← name.text?, tables := ← tablesOfJson? tables }
  | _ => none

/-- A database as a value. -/
def toJson (database : Database) : Json :=
  .object [
    ("name", .text database.name),
    ("tables", .object (database.tables.entries.map fun (key, table) => (key, table.toJson)))]

/-- The database that a document holds, consistent or not. -/
def read? (document : String) : Option Database :=
  (Json.read? document).bind ofJson?

/-- The document of a database. -/
def write (database : Database) : String :=
  database.toJson.write

end Database

end Rowbase
