import Rowbase.Database
import Rowbase.Proofs.Outcomes

/-!
# What a change does

A change that succeeds adds a table, takes one away, or puts another state of one table in
that table's place. `Database.Step` says so for each kind of change, with all that was checked
before, and `Database.step_of_change` derives it from the code. A step of a table keeps its
name, and only an insertion uses up an identity.
-/

namespace Rowbase

/-- The table that a change names. -/
def Change.target : Change → String
  | .createTable table _ | .dropTable table | .addColumn table _ | .dropColumn table _
  | .insert table _ | .update table _ _ | .delete table _ => table

/-- How many identities a change to the rows of a table uses up. -/
def Change.inserted : Change → Nat
  | .insert _ _ => 1
  | _ => 0

theorem Change.inserted_le_one (change : Change) : change.inserted ≤ 1 := by
  cases change <;> simp [inserted]

/-! ## Steps of one table -/

namespace Table

/-- The table that a change to the columns or rows of a table leaves. -/
inductive Step (table : Table) : Change → Table → Prop where
  | addColumn {name column : String} {changed : Table}
      (done : table.addColumn column = .ok changed) :
      Step table (.addColumn name column) changed
  | dropColumn {name column : String} {changed : Table}
      (done : table.dropColumn column = .ok changed) :
      Step table (.dropColumn name column) changed
  | insert {name : String} {values : List Literal} {changed : Table} {id : Nat}
      (done : table.insert values = .ok (changed, id)) :
      Step table (.insert name values) changed
  | update {name : String} {assignments : List Assignment} {condition : Condition}
      {changed : Table} {count : Nat}
      (done : table.update assignments condition = .ok (changed, count)) :
      Step table (.update name assignments condition) changed
  | delete {name : String} {condition : Condition} {changed : Table} {count : Nat}
      (done : table.delete condition = .ok (changed, count)) :
      Step table (.delete name condition) changed

/-- A later state of the same table: it has the same name, and its next identity is later by
as many as were used up. -/
structure Follows (table : Table) (change : Change) (changed : Table) : Prop where
  name : changed.name = table.name
  nextId : changed.nextId = table.nextId + change.inserted

/-- An insertion uses up the next identity. -/
theorem insert_eq_ok_iff {table changed : Table} {values : List Literal} {id : Nat} :
    table.insert values = .ok (changed, id) ↔
      values.length = table.columns.length - 1 ∧ id = table.nextId ∧
        changed = { table with
          rows := table.rows ++ [toString table.nextId :: values.map Literal.field]
          nextId := table.nextId + 1 } := by
  unfold Table.insert
  simp only
  split
  next hcount =>
    constructor
    · intro h
      cases h
      exact ⟨hcount, rfl, rfl⟩
    · rintro ⟨-, rfl, rfl⟩
      rfl
  next hcount => simp [hcount]

/-- Where a test on items marks their rows, the rows of the items that pass it are marked. -/
theorem marked_map {α : Type} (test : α → Bool) (row : α → Row) (items : List α) :
    marked (items.map test) (items.map row) = (items.filter test).map row := by
  induction items with
  | nil => rfl
  | cons item rest ih =>
      cases htest : test item with
      | true => simpa [marked, htest] using ih
      | false => simpa [marked, htest] using ih

/-- The table after an insertion of literals. -/
def withRow (table : Table) (fields : List String) : Table :=
  { table with
    rows := table.rows ++ [toString table.nextId :: fields]
    nextId := table.nextId + 1 }

theorem Step.follows {table changed : Table} {change : Change}
    (h : table.Step change changed) : table.Follows change changed := by
  cases h with
  | addColumn done =>
      obtain ⟨_, -, hchanged⟩ := bind_eq_ok_iff.mp done
      cases hchanged
      exact ⟨rfl, rfl⟩
  | dropColumn done =>
      obtain ⟨_, -, hchanged⟩ := bind_eq_ok_iff.mp done
      cases hchanged
      exact ⟨rfl, rfl⟩
  | insert done =>
      obtain ⟨-, -, rfl⟩ := insert_eq_ok_iff.mp done
      exact ⟨rfl, rfl⟩
  | update done =>
      obtain ⟨_, -, hmarks⟩ := bind_eq_ok_iff.mp done
      obtain ⟨_, -, hchanged⟩ := bind_eq_ok_iff.mp hmarks
      cases hchanged
      exact ⟨rfl, rfl⟩
  | delete done =>
      obtain ⟨_, -, hchanged⟩ := bind_eq_ok_iff.mp done
      cases hchanged
      exact ⟨rfl, rfl⟩

/-- A new table has the given name and all its identities before it. -/
theorem name_nextId_of_create {table : Table} {name : String} {columns : List String}
    (h : create name columns = .ok table) : table.name = name ∧ table.nextId = 1 := by
  refine of_foldlM_eq_ok (fun state => state.name = name ∧ state.nextId = 1) ?_ ⟨rfl, rfl⟩ h
  intro state column _ next hstate hadd
  obtain ⟨_, -, hnext⟩ := bind_eq_ok_iff.mp hadd
  cases hnext
  exact hstate

end Table

/-! ## Steps of a database -/

namespace Database

variable {database changed : Database} {change : Change}

theorem table_eq_ok_iff {name : String} {table : Table} :
    database.table name = .ok table ↔ database.tables.find? (Name.key name) = some table := by
  unfold Database.table
  split
  next found hfound => simp [hfound]
  next hnone => simp [hnone]

/-- The database that a successful change leaves. -/
inductive Step (database : Database) : Change → Database → Prop where
  | createTable {name : String} {columns : List String} {table : Table}
      (free : database.tables.contains (Name.key name) = false)
      (created : Table.create name columns = .ok table) :
      Step database (.createTable name columns) (database.put name table)
  | dropTable {name : String} {table : Table} (found : database.table name = .ok table) :
      Step database (.dropTable name)
        { database with tables := database.tables.erase (Name.key name) }
  | onTable {change : Change} {table next : Table}
      (found : database.table change.target = .ok table) (step : table.Step change next) :
      Step database change (database.put change.target next)

theorem onTable_eq_ok_iff {α : Type} {name : String}
    {operation : Table → Except Error (Table × α)} {result : α} :
    database.onTable name operation = .ok (changed, result) ↔
      ∃ table next, database.table name = .ok table ∧
        operation table = .ok (next, result) ∧ changed = database.put name next := by
  unfold onTable
  simp only [bind_eq_ok_iff, Prod.exists]
  constructor
  · rintro ⟨table, htable, next, _, hnext, h⟩
    cases h
    exact ⟨table, next, htable, hnext, rfl⟩
  · rintro ⟨table, next, htable, hnext, rfl⟩
    exact ⟨table, htable, next, result, hnext, rfl⟩

theorem createTable_eq_ok_iff {name : String} {columns : List String} :
    database.createTable name columns = .ok changed ↔
      database.tables.contains (Name.key name) = false ∧
        ∃ table, Table.create name columns = .ok table ∧ changed = database.put name table := by
  unfold Database.createTable
  cases database.tables.contains (Name.key name) with
  | true => simp [throw, throwThe, MonadExceptOf.throw, bind, Except.bind]
  | false =>
      simp only [Bool.false_eq_true, if_false, true_and, bind_eq_ok_iff]
      constructor
      · rintro ⟨table, htable, hchanged⟩
        cases hchanged
        exact ⟨table, htable, rfl⟩
      · rintro ⟨table, htable, rfl⟩
        exact ⟨table, htable, rfl⟩

/-- An insertion succeeds if there is a value for every other column. -/
theorem change_insert {name : String} {table : Table} (htable : database.table name = .ok table)
    {values : List Literal} (hcount : values.length = table.columns.length - 1) :
    database.change (.insert name values) =
      .ok (database.put name (table.withRow (values.map Literal.field))) := by
  have hinsert : table.insert values =
      .ok (table.withRow (values.map Literal.field), table.nextId) :=
    Table.insert_eq_ok_iff.mpr ⟨hcount, rfl, rfl⟩
  simp [Database.change, onTable, htable, hinsert]

/-- Every successful change is a step. -/
theorem step_of_change (h : database.change change = .ok changed) :
    database.Step change changed := by
  cases change with
  | createTable name columns =>
      obtain ⟨hfree, table, htable, rfl⟩ := createTable_eq_ok_iff.mp h
      exact .createTable hfree htable
  | dropTable name =>
      obtain ⟨table, hfound, hchanged⟩ := bind_eq_ok_iff.mp h
      cases hchanged
      exact .dropTable hfound
  | addColumn name column =>
      obtain ⟨table, hfound, h⟩ := bind_eq_ok_iff.mp h
      obtain ⟨next, hadd, hchanged⟩ := bind_eq_ok_iff.mp h
      cases hchanged
      exact .onTable hfound (.addColumn hadd)
  | dropColumn name column =>
      obtain ⟨table, hfound, h⟩ := bind_eq_ok_iff.mp h
      obtain ⟨next, hdrop, hchanged⟩ := bind_eq_ok_iff.mp h
      cases hchanged
      exact .onTable hfound (.dropColumn hdrop)
  | insert name values =>
      obtain ⟨⟨_, id⟩, hinsert, hchanged⟩ := bind_eq_ok_iff.mp h
      cases hchanged
      obtain ⟨table, next, hfound, hnext, rfl⟩ := onTable_eq_ok_iff.mp hinsert
      exact .onTable hfound (.insert hnext)
  | update name assignments condition =>
      obtain ⟨⟨_, count⟩, hupdate, hchanged⟩ := bind_eq_ok_iff.mp h
      cases hchanged
      obtain ⟨table, next, hfound, hnext, rfl⟩ := onTable_eq_ok_iff.mp hupdate
      exact .onTable hfound (.update hnext)
  | delete name condition =>
      obtain ⟨⟨_, count⟩, hdelete, hchanged⟩ := bind_eq_ok_iff.mp h
      cases hchanged
      obtain ⟨table, next, hfound, hnext, rfl⟩ := onTable_eq_ok_iff.mp hdelete
      exact .onTable hfound (.delete hnext)

/-- A change leaves the name of the database as it is. -/
theorem Step.name (h : database.Step change changed) : changed.name = database.name := by
  cases h <;> rfl

end Database

end Rowbase
