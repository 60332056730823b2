import Rowbase.Condition.Evaluate

/-!
# Tables

A table is a list of rows of text in the order of their insertion. Its first column holds
identities: a new row gets the next one, which only ever grows, so that no identity is given
twice. All checks of an operation come before its effect, and the operation returns the table
it leaves.
-/

namespace Rowbase

/-- The fields of one row, its identity first. -/
abbrev Row := List String

/-- The answer to a query: the names over the columns, and the rows. -/
structure Listing where
  header : List String
  rows : List Row
  deriving DecidableEq, Repr

/-- A named table. `nextId` is the identity of the row to be inserted next. -/
structure Table where
  name : String
  columns : List String
  rows : List Row
  nextId : Nat
  deriving DecidableEq, Repr

namespace Table

/-- The name of the identity column. -/
def idColumn : String :=
  "id"

/-! ## Columns -/

/-- The place of a column, found by its name. -/
def columnIndex? (table : Table) (name : String) : Option Nat :=
  table.columns.findIdx? fun column => Name.Same column name

/-- The place of a column that must exist. -/
def resolve (table : Table) (name : String) : Except Error Nat :=
  match table.columnIndex? name with
  | some index => .ok index
  | none => .error (.unknownColumn name)

/-- The place of a column that may be written to: any but that of the identities. -/
def writable (table : Table) (name : String) : Except Error Nat :=
  match table.columnIndex? name with
  | some 0 => .error .identityColumn
  | some index => .ok index
  | none => .error (.unknownColumn name)

/-- Refuses a name for a new column that is taken or is that of the identities. -/
def checkNew (table : Table) (name : String) : Except Error Unit :=
  if Name.Same name idColumn then .error .identityColumn
  else if (table.columnIndex? name).isSome then .error (.columnExists name)
  else .ok ()

/-- Adds a column, with an empty field in every row there is. -/
def addColumn (table : Table) (name : String) : Except Error Table := do
  table.checkNew name
  return { table with
    columns := table.columns ++ [name]
    rows := table.rows.map (· ++ [""]) }

/-- Takes a column and its fields out of the table. -/
def dropColumn (table : Table) (name : String) : Except Error Table := do
  let index ← table.writable name
  return { table with
    columns := table.columns.eraseIdx index
    rows := table.rows.map (·.eraseIdx index) }

/-- A table without rows, its columns those of the identities and the given ones. -/
def create (name : String) (columns : List String) : Except Error Table :=
  columns.foldlM addColumn { name, columns := [idColumn], rows := [], nextId := 1 }

/-! ## Rows -/

/-- The field of a row in the column of the given name. -/
def field? (table : Table) (row : Row) (name : String) : Option String :=
  (table.columnIndex? name).bind fun index => row[index]?

/-- Appends a row and returns its identity. There must be a value for every other column. -/
def insert (table : Table) (values : List Literal) : Except Error (Table × Nat) :=
  let expected := table.columns.length - 1
  if values.length = expected then
    let row := toString table.nextId :: values.map Literal.field
    .ok ({ table with rows := table.rows ++ [row], nextId := table.nextId + 1 }, table.nextId)
  else .error (.valueCount expected values.length)

/-- Which rows satisfy a condition. Every name in it must be known, also if there are no rows. -/
def matching (table : Table) (condition : Condition) : Except Error (List Bool) := do
  condition.validate fun name => (table.columnIndex? name).isSome
  table.rows.mapM fun row => condition.evaluate (table.field? row)

/-- Which rows satisfy a condition that may be missing; then all of them do. -/
def matchingAll (table : Table) : Option Condition → Except Error (List Bool)
  | some condition => table.matching condition
  | none => .ok (table.rows.map fun _ => true)

/-- The rows at the places that are marked. -/
def marked (marks : List Bool) (rows : List Row) : List Row :=
  (marks.zip rows).filterMap fun (mark, row) => if mark then some row else none

/-- The fields of a row at the given places. -/
def project (row : Row) (indices : List Nat) : Row :=
  indices.map fun index => row[index]?.getD ""

/-- The places of the columns that are wanted. -/
def wanted (table : Table) : Option (List String) → Except Error (List Nat)
  | some names => names.mapM table.resolve
  | none => .ok (List.range table.columns.length)

/-- The wanted columns of the rows that satisfy a condition, in the order of insertion and under the
names that the columns have. -/
def select (table : Table) (columns : Option (List String)) (condition : Option Condition) :
    Except Error Listing := do
  let indices ← table.wanted columns
  let marks ← table.matchingAll condition
  return {
    header := project table.columns indices
    rows := (marked marks table.rows).map fun row => project row indices }

/-- The place and the new field of each assignment. -/
def targets (table : Table) (assignments : List Assignment) : Except Error (List (Nat × String)) :=
  assignments.mapM fun assignment => do
    return (← table.writable assignment.column, assignment.literal.field)

/-- A row with new fields at the given places, the last one given for a place counting. -/
def assign (targets : List (Nat × String)) (row : Row) : Row :=
  targets.foldl (fun row (index, field) => row.set index field) row

/-- Assigns new fields in the rows that satisfy a condition, and counts those rows. -/
def update (table : Table) (assignments : List Assignment) (condition : Condition) :
    Except Error (Table × Nat) := do
  let targets ← table.targets assignments
  let marks ← table.matching condition
  let rows := (marks.zip table.rows).map fun (mark, row) => if mark then assign targets row else row
  return ({ table with rows }, marks.count true)

/-- Removes the rows that satisfy a condition, and counts them. -/
def delete (table : Table) (condition : Condition) : Except Error (Table × Nat) := do
  let marks ← table.matching condition
  return ({ table with rows := marked (marks.map not) table.rows }, marks.count true)

/-! ## Consistency -/

/-- The identity that a field writes: digits, with a plus before them or not. -/
def identity? (field : String) : Option Nat :=
  let digits := match field.toList with
    | '+' :: rest => rest
    | all => all
  if !digits.isEmpty && digits.all Char.isDigit then some (Decimal.ofDigits digits) else none

/-- Whether rows have the given width and identities that ascend between the given bounds. -/
def ascending (width next : Nat) : (last : Nat) → List Row → Bool
  | _, [] => true
  | last, row :: rest =>
    match row.head?.bind identity? with
    | some id => row.length = width && last < id && id < next && ascending width next id rest
    | none => false

/-- Whether the first column is that of the identities, every row has a field for every
column, and the identities ascend and are below the next one. -/
def isConsistent (table : Table) : Bool :=
  table.columns.head?.any (fun column => Name.Same column idColumn) &&
    ascending table.columns.length table.nextId 0 table.rows

end Table

end Rowbase
