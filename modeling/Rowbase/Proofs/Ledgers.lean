import Rowbase.Proofs.Changes

/-!
# Ledgers of tables

A ledger is kept of the successful changes to one table: how many rows have been inserted, and
which of them are left, each under the number that tells the how-manieth it was. A table that
has made the same changes shows its ledger, the numbers being the identities of the rows.
-/

namespace Rowbase

/-- A row under its number, with its fields but for the identity. -/
structure Ledger.Entry where
  number : Nat
  fields : List String
  deriving DecidableEq, Repr

/-- The columns of a table but for that of the identities, the number of rows that have been
inserted, and the rows that are left. -/
structure Ledger where
  columns : List String
  inserted : Nat
  entries : List Ledger.Entry
  deriving DecidableEq, Repr

namespace Ledger

/-- The ledger of a new table. -/
def start (columns : List String) : Ledger where
  columns
  inserted := 0
  entries := []

/-- The place of a column, found by its name. -/
def place? (ledger : Ledger) (name : String) : Option Nat :=
  ledger.columns.findIdx? fun column => Name.Same column name

/-- What an entry has in the column of the given name. -/
def field? (ledger : Ledger) (entry : Entry) (name : String) : Option String :=
  if Name.Same Table.idColumn name then some (toString entry.number)
  else (ledger.place? name).bind fun index => entry.fields[index]?

/-- Whether an entry satisfies a condition. -/
def meets (ledger : Ledger) (condition : Condition) (entry : Entry) : Bool :=
  (condition.evaluate (ledger.field? entry)).toOption = some true

/-- Fields after assignments, made one after the other. -/
def assign (ledger : Ledger) (assignments : List Assignment) (fields : List String) :
    List String :=
  assignments.foldl (fun fields assignment =>
    match ledger.place? assignment.column with
    | some index => fields.set index assignment.literal.field
    | none => fields) fields

/-- An entry after assignments. -/
def Entry.update (ledger : Ledger) (assignments : List Assignment) (entry : Entry) : Entry :=
  { entry with fields := ledger.assign assignments entry.fields }

/-- The ledger after a successful change. A row that is inserted gets the next number. -/
def after (ledger : Ledger) : Change → Ledger
  | .insert _ values =>
    let number := ledger.inserted + 1
    { ledger with
      inserted := number
      entries := ledger.entries ++ [{ number, fields := values.map Literal.field }] }
  | .update _ assignments condition =>
    { ledger with
      entries := ledger.entries.map fun entry =>
        if ledger.meets condition entry then entry.update ledger assignments else entry }
  | .delete _ condition =>
    { ledger with entries := ledger.entries.filter fun entry => !ledger.meets condition entry }
  | .addColumn _ column =>
    { ledger with
      columns := ledger.columns ++ [column]
      entries := ledger.entries.map fun entry => { entry with fields := entry.fields ++ [""] } }
  | .dropColumn _ column =>
    match ledger.place? column with
    | some index =>
      { ledger with
        columns := ledger.columns.eraseIdx index
        entries := ledger.entries.map fun entry =>
          { entry with fields := entry.fields.eraseIdx index } }
    | none => ledger
  | .createTable _ _ | .dropTable _ => ledger

/-! ## Numbers -/

/-- The numbers ascend, and none is higher than rows have been inserted. -/
structure Ordered (ledger : Ledger) : Prop where
  ascending : ledger.entries.Pairwise fun left right => left.number < right.number
  bounds : ∀ entry ∈ ledger.entries, 1 ≤ entry.number ∧ entry.number ≤ ledger.inserted

variable {ledger : Ledger}

theorem ordered_start (columns : List String) : (start columns).Ordered :=
  ⟨.nil, by simp [start]⟩

/-- Entries that keep their numbers stay in order. -/
theorem Ordered.map (h : ledger.Ordered) {change : Entry → Entry} (columns : List String)
    (hnumber : ∀ entry, (change entry).number = entry.number) :
    Ordered { ledger with columns, entries := ledger.entries.map change } := by
  constructor
  · simpa [List.pairwise_map, hnumber] using h.ascending
  · intro entry hentry
    obtain ⟨old, hold, rfl⟩ := List.mem_map.mp hentry
    rw [hnumber]
    exact h.bounds old hold

theorem Ordered.after (h : ledger.Ordered) (change : Change) : (ledger.after change).Ordered := by
  cases change with
  | insert name values =>
      constructor
      · refine List.pairwise_append.mpr ⟨h.ascending, List.pairwise_singleton _ _, ?_⟩
        intro entry hentry last hlast
        rw [List.mem_singleton.mp hlast]
        exact Nat.lt_succ_of_le (h.bounds entry hentry).2
      · intro entry hentry
        rcases List.mem_append.mp hentry with hold | hnew
        · exact ⟨(h.bounds entry hold).1, Nat.le_succ_of_le (h.bounds entry hold).2⟩
        · rw [List.mem_singleton.mp hnew]
          exact ⟨Nat.le_add_left 1 _, Nat.le_refl _⟩
  | update name assignments condition =>
      refine h.map ledger.columns fun entry => ?_
      split
      · rfl
      · rfl
  | delete name condition =>
      exact ⟨h.ascending.filter _,
        fun entry hentry => h.bounds entry (List.mem_of_mem_filter hentry)⟩
  | addColumn name column => exact h.map _ fun _ => rfl
  | dropColumn name column =>
      unfold Ledger.after
      simp only
      split
      · exact h.map _ fun _ => rfl
      · exact h
  | createTable name columns => exact h
  | dropTable name => exact h

theorem inserted_after (ledger : Ledger) (change : Change) :
    (ledger.after change).inserted = ledger.inserted + change.inserted := by
  cases change with
  | dropColumn name column =>
      unfold Ledger.after
      simp only
      split
      · rfl
      · rfl
  | _ => rfl

/-! ## Tables that show ledgers -/

/-- An entry as a row: its number is the identity. -/
def Entry.row (entry : Entry) : Row :=
  toString entry.number :: entry.fields

/-- The table that shows a ledger. -/
def table (ledger : Ledger) (name : String) : Table where
  name
  columns := Table.idColumn :: ledger.columns
  rows := ledger.entries.map Entry.row
  nextId := ledger.inserted + 1

variable {name column : String}

theorem columnIndex?_table (ledger : Ledger) (name column : String) :
    (ledger.table name).columnIndex? column =
      if Name.Same Table.idColumn column then some 0
      else (ledger.place? column).map (· + 1) := by
  simp [Table.columnIndex?, table, List.findIdx?_cons, place?]

theorem field?_table (ledger : Ledger) (name : String) (entry : Entry) :
    (ledger.table name).field? entry.row = ledger.field? entry := by
  funext column
  rw [Table.field?, columnIndex?_table, field?]
  split
  · rfl
  · cases ledger.place? column with
    | none => rfl
    | some index => rfl

/-- What may be written to is a column of the ledger. -/
theorem place?_of_writable {index : Nat}
    (h : (ledger.table name).writable column = .ok index) :
    ∃ place, ledger.place? column = some place ∧ index = place + 1 := by
  unfold Table.writable at h
  rw [columnIndex?_table] at h
  by_cases hid : Name.Same Table.idColumn column
  · simp [hid] at h
  · rw [if_neg hid] at h
    cases hplace : ledger.place? column with
    | none => simp [hplace] at h
    | some place =>
        simp only [hplace, Option.map_some] at h
        cases h
        exact ⟨place, rfl, rfl⟩

/-- The rows that a condition marks are the entries that satisfy it. -/
theorem eq_map_of_matching {condition : Condition} {marks : List Bool}
    (h : (ledger.table name).matching condition = .ok marks) :
    marks = ledger.entries.map (ledger.meets condition) := by
  obtain ⟨-, -, h⟩ := bind_eq_ok_iff.mp h
  have hmarks := List.forall₂_map_left_iff.mp (forall₂_of_mapM_eq_ok h)
  have hmeets : List.Forall₂ (fun entry mark => ledger.meets condition entry = mark)
      ledger.entries marks := by
    refine hmarks.imp fun entry mark hmark => ?_
    rw [field?_table] at hmark
    simp [meets, hmark, Except.toOption]
  have hequal := List.forall₂_map_left_iff.mpr hmeets
  rw [List.forall₂_eq_eq_eq] at hequal
  exact hequal.symm

/-- Assignments to a row are assignments to the fields of its entry. -/
theorem row_update {assignments : List Assignment} {targets : List (Nat × String)}
    (h : (ledger.table name).targets assignments = .ok targets) (entry : Entry) :
    Table.assign targets entry.row = (entry.update ledger assignments).row := by
  -- for every entry, as an assignment is made to what those before it have left
  induction assignments generalizing entry targets with
  | nil =>
      cases h
      rfl
  | cons assignment rest ih =>
      rw [Table.targets, List.mapM_cons] at h
      obtain ⟨target, htarget, h⟩ := bind_eq_ok_iff.mp h
      obtain ⟨others, hothers, h⟩ := bind_eq_ok_iff.mp h
      cases h
      obtain ⟨index, hindex, htarget⟩ := bind_eq_ok_iff.mp htarget
      cases htarget
      obtain ⟨place, hplace, rfl⟩ := place?_of_writable hindex
      let changed : Entry :=
        { entry with fields := entry.fields.set place assignment.literal.field }
      calc Table.assign ((place + 1, assignment.literal.field) :: others) entry.row
          = Table.assign others changed.row := rfl
        _ = (changed.update ledger rest).row := ih hothers changed
        _ = (entry.update ledger (assignment :: rest)).row := by
            simp [changed, Entry.update, assign, hplace]

/-- A step of a table that shows a ledger leads to the table that shows the ledger after it. -/
theorem eq_table_of_step {change : Change} {next : Table}
    (h : (ledger.table name).Step change next) : next = (ledger.after change).table name := by
  cases h with
  | addColumn done =>
      obtain ⟨_, -, hnext⟩ := bind_eq_ok_iff.mp done
      cases hnext
      simp [table, after, Entry.row]
  | dropColumn done =>
      obtain ⟨index, hindex, hnext⟩ := bind_eq_ok_iff.mp done
      cases hnext
      obtain ⟨place, hplace, rfl⟩ := place?_of_writable hindex
      simp [table, after, hplace, Entry.row]
  | insert done =>
      obtain ⟨-, -, rfl⟩ := Table.insert_eq_ok_iff.mp done
      simp [table, after, Entry.row]
  | update done =>
      obtain ⟨targets, htargets, done⟩ := bind_eq_ok_iff.mp done
      obtain ⟨marks, hmarks, hnext⟩ := bind_eq_ok_iff.mp done
      cases hnext
      obtain rfl := eq_map_of_matching hmarks
      simp only [table, after, List.zip_map', List.map_map]
      congr 1
      apply List.map_congr_left
      intro entry _
      simp only [Function.comp_apply]
      split
      · exact row_update htargets entry
      · rfl
  | delete done =>
      obtain ⟨marks, hmarks, hnext⟩ := bind_eq_ok_iff.mp done
      cases hnext
      obtain rfl := eq_map_of_matching hmarks
      simp only [table, after, List.map_map]
      rw [← Table.marked_map]
      rfl

theorem eq_of_foldlM_addColumn {columns more : List String} {created : Table}
    (h : more.foldlM Table.addColumn { name, columns, rows := [], nextId := 1 } = .ok created) :
    created = { name, columns := columns ++ more, rows := [], nextId := 1 } := by
  induction more generalizing columns with
  | nil =>
      cases h
      simp
  | cons column rest ih =>
      rw [List.foldlM_cons] at h
      obtain ⟨next, hadd, h⟩ := bind_eq_ok_iff.mp h
      obtain ⟨_, -, hnext⟩ := bind_eq_ok_iff.mp hadd
      cases hnext
      simpa using ih h

/-- A new table shows a new ledger. -/
theorem eq_table_of_create {columns : List String} {created : Table}
    (h : Table.create name columns = .ok created) : created = (start columns).table name :=
  eq_of_foldlM_addColumn h

end Ledger

end Rowbase
