import Rowbase.Database

/-!
# Joins

A join lists the pairs of rows of two tables that agree as text in a column of each, numbered
from 1. Of both sides it leaves out the identities and the column they were joined on. A name
that both sides keep is qualified by its table, and where that is not enough, as when a table
is joined with itself, later copies get a number.
-/

namespace Rowbase

/-! ## Distinct headers -/

/-- A header with the smallest number from 2 on that makes it differ from all the given ones.
Among as many numbers as there are headers one is free. -/
def numbered (headers : List String) (header : String) : String :=
  let candidates := (List.range' 2 headers.length).map fun n => header ++ "_" ++ toString n
  (candidates.find? fun candidate => !headers.any (Name.Same candidate)).getD header

/-- Numbers every header that repeats one before it; `done` has been dealt with. -/
def distinguishAfter (done : List String) : List String → List String
  | [] => done
  | header :: rest =>
    let repeats := done.any (Name.Same header)
    distinguishAfter
      (done ++ [if repeats then numbered (done ++ header :: rest) header else header]) rest

/-- Headers of which no two name the same. -/
def distinguish (headers : List String) : List String :=
  distinguishAfter [] headers

namespace Join

/-- One side of a join: a table, and the place of the column on which it is joined. -/
structure Side where
  table : Table
  on : Nat
  deriving DecidableEq, Repr

namespace Side

/-- The places of the columns that a join keeps. -/
def kept (side : Side) : List Nat :=
  (List.range side.table.columns.length).filter fun index => index ≠ 0 && index ≠ side.on

/-- The names of the columns that a join keeps. -/
def keptNames (side : Side) : List String :=
  Table.project side.table.columns side.kept

/-- The headers of the columns that a join keeps, qualified where the other side keeps the
same name. -/
def headers (side other : Side) : List String :=
  side.keptNames.map fun name =>
    if other.keptNames.any (Name.Same name) then side.table.name ++ "." ++ name else name

end Side

/-- The pairs of rows that agree, by the left row and then by the right one. -/
def pairs (left right : Side) : List (Row × Row) :=
  left.table.rows.flatMap fun leftRow =>
    (right.table.rows.filter fun rightRow => rightRow[right.on]? = leftRow[left.on]?).map
      (leftRow, ·)

/-- The listing of two sides. -/
def listing (left right : Side) : Listing where
  header := distinguish (Table.idColumn :: left.headers right ++ right.headers left)
  rows := ((pairs left right).zipIdx 1).map fun ((leftRow, rightRow), number) =>
    toString number :: Table.project leftRow left.kept ++ Table.project rightRow right.kept

end Join

namespace Database

/-- The listing of a join. Both tables are looked for before both columns. -/
def join (database : Database) (join : Join) : Except Error Listing := do
  let left ← database.table join.leftTable
  let right ← database.table join.rightTable
  let leftOn ← left.resolve join.leftColumn
  let rightOn ← right.resolve join.rightColumn
  return Join.listing { table := left, on := leftOn } { table := right, on := rightOn }

/-- The answer to a query. -/
def query (database : Database) : Query → Except Error Listing
  | .select selection => do
    (← database.table selection.table).select selection.columns selection.condition
  | .join join => database.join join

end Database

end Rowbase
