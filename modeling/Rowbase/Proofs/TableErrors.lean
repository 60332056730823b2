import Rowbase.Database.Join
import Rowbase.Proofs.Mentions

/-!
# Errors of operations on tables

An operation on the tables of a database fails for what it is asked of them: a name that it
mentions is missing or taken, the identity column would change, or there are too few or too many
values. None fails for a database or for the storage.
-/

namespace Rowbase

/-- The errors of operations on tables. Each is about one of the given names, or about none. -/
inductive Error.About (names : List String) : Error → Prop where
  | unknownTable {name : String} (mentioned : name ∈ names) : About names (.unknownTable name)
  | unknownColumn {name : String} (mentioned : name ∈ names) : About names (.unknownColumn name)
  | tableExists {name : String} (mentioned : name ∈ names) : About names (.tableExists name)
  | columnExists {name : String} (mentioned : name ∈ names) : About names (.columnExists name)
  | identityColumn : About names .identityColumn
  | valueCount (expected found : Nat) : About names (.valueCount expected found)

variable {names : List String}

namespace Condition

variable {condition : Condition}

theorem failsOnly_validate (known : String → Bool) (h : condition.columns ⊆ names) :
    FailsOnly (Error.About names) (condition.validate known) := by
  unfold validate
  split
  next column hfind => exact failsOnly_error (.unknownColumn (h (List.mem_of_find?_eq_some hfind)))
  · exact failsOnly_ok ()

theorem failsOnly_evaluate (field? : String → Option String) (h : condition.columns ⊆ names) :
    FailsOnly (Error.About names) (condition.evaluate field?) := by
  induction condition with
  | comparison column comparator literal =>
      unfold evaluate
      split
      · exact failsOnly_error (.unknownColumn (h (.head _)))
      · exact failsOnly_ok _
  | and left right ihleft ihright =>
      obtain ⟨hleft, hright⟩ := List.append_subset.mp h
      unfold evaluate
      split
      · exact ihright hright
      · exact ihleft hleft
  | or left right ihleft ihright =>
      obtain ⟨hleft, hright⟩ := List.append_subset.mp h
      unfold evaluate
      split
      · exact ihright hright
      · exact ihleft hleft

end Condition

namespace Table

variable (table : Table) {name : String}

theorem failsOnly_resolve (h : name ∈ names) :
    FailsOnly (Error.About names) (table.resolve name) := by
  unfold resolve
  split
  · exact failsOnly_ok _
  · exact failsOnly_error (.unknownColumn h)

theorem failsOnly_writable (h : name ∈ names) :
    FailsOnly (Error.About names) (table.writable name) := by
  unfold writable
  split
  · exact failsOnly_error .identityColumn
  · exact failsOnly_ok _
  · exact failsOnly_error (.unknownColumn h)

theorem failsOnly_checkNew (h : name ∈ names) :
    FailsOnly (Error.About names) (table.checkNew name) := by
  unfold checkNew
  split
  · exact failsOnly_error .identityColumn
  · split
    · exact failsOnly_error (.columnExists h)
    · exact failsOnly_ok ()

theorem failsOnly_addColumn (h : name ∈ names) :
    FailsOnly (Error.About names) (table.addColumn name) :=
  (table.failsOnly_checkNew h).bind fun _ => failsOnly_ok _

theorem failsOnly_dropColumn (h : name ∈ names) :
    FailsOnly (Error.About names) (table.dropColumn name) :=
  (table.failsOnly_writable h).bind fun _ => failsOnly_ok _

theorem failsOnly_create (name : String) {columns : List String} (h : columns ⊆ names) :
    FailsOnly (Error.About names) (create name columns) :=
  failsOnly_foldlM (fun _ hcolumn table => table.failsOnly_addColumn (h hcolumn)) _

theorem failsOnly_insert (values : List Literal) :
    FailsOnly (Error.About names) (table.insert values) := by
  unfold insert
  simp only
  split
  · exact failsOnly_ok _
  · exact failsOnly_error (.valueCount _ _)

theorem failsOnly_matching {condition : Condition} (h : condition.columns ⊆ names) :
    FailsOnly (Error.About names) (table.matching condition) :=
  (Condition.failsOnly_validate _ h).bind fun _ =>
    failsOnly_mapM fun _ _ => Condition.failsOnly_evaluate _ h

theorem failsOnly_update {assignments : List Assignment} {condition : Condition}
    (hassignments : assignments.map Assignment.column ⊆ names)
    (hcondition : condition.columns ⊆ names) :
    FailsOnly (Error.About names) (table.update assignments condition) := by
  have htargets : FailsOnly (Error.About names) (table.targets assignments) :=
    failsOnly_mapM fun assignment hassignment =>
      (table.failsOnly_writable (hassignments (List.mem_map_of_mem hassignment))).bind fun _ =>
        failsOnly_ok _
  exact htargets.bind fun _ => (table.failsOnly_matching hcondition).bind fun _ => failsOnly_ok _

theorem failsOnly_delete {condition : Condition} (h : condition.columns ⊆ names) :
    FailsOnly (Error.About names) (table.delete condition) :=
  (table.failsOnly_matching h).bind fun _ => failsOnly_ok _

theorem failsOnly_select {columns : Option (List String)} {condition : Option Condition}
    (hcolumns : columns.getD [] ⊆ names)
    (hcondition : condition.elim [] Condition.columns ⊆ names) :
    FailsOnly (Error.About names) (table.select columns condition) := by
  have hwanted : FailsOnly (Error.About names) (table.wanted columns) := by
    cases columns with
    | none => exact failsOnly_ok _
    | some wanted => exact failsOnly_mapM fun _ hname => table.failsOnly_resolve (hcolumns hname)
  have hmatching : FailsOnly (Error.About names) (table.matchingAll condition) := by
    cases condition with
    | none => exact failsOnly_ok _
    | some condition => exact table.failsOnly_matching hcondition
  exact hwanted.bind fun _ => hmatching.bind fun _ => failsOnly_ok _

end Table

namespace Database

variable (database : Database) {name : String}

theorem failsOnly_table (h : name ∈ names) :
    FailsOnly (Error.About names) (database.table name) := by
  unfold Database.table
  split
  · exact failsOnly_ok _
  · exact failsOnly_error (.unknownTable h)

theorem failsOnly_onTable {α : Type} {operation : Table → Except Error (Table × α)}
    (h : name ∈ names) (hoperation : ∀ table, FailsOnly (Error.About names) (operation table)) :
    FailsOnly (Error.About names) (database.onTable name operation) :=
  (database.failsOnly_table h).bind fun table => (hoperation table).bind fun _ => failsOnly_ok _

theorem failsOnly_createTable {columns : List String} (h : name ∈ names)
    (hcolumns : columns ⊆ names) :
    FailsOnly (Error.About names) (database.createTable name columns) := by
  unfold Database.createTable
  split
  · exact failsOnly_error (.tableExists h)
  · exact (Table.failsOnly_create name hcolumns).bind fun _ => failsOnly_ok _

/-- A change fails only for what it says about tables and columns. -/
theorem failsOnly_change (change : Change) :
    FailsOnly (Error.About change.mentioned) (database.change change) := by
  cases change with
  | createTable table columns =>
      exact database.failsOnly_createTable (.head _) (List.subset_cons_self _ _)
  | dropTable table => exact (database.failsOnly_table (.head _)).bind fun _ => failsOnly_ok _
  | addColumn table column =>
      exact (database.failsOnly_table (.head _)).bind fun found =>
        (found.failsOnly_addColumn (.tail _ (.head _))).bind fun _ => failsOnly_ok _
  | dropColumn table column =>
      exact (database.failsOnly_table (.head _)).bind fun found =>
        (found.failsOnly_dropColumn (.tail _ (.head _))).bind fun _ => failsOnly_ok _
  | insert table values =>
      have hinsert := database.failsOnly_onTable (List.mem_singleton_self table)
        fun found => found.failsOnly_insert values
      exact hinsert.bind fun _ => failsOnly_ok _
  | update table assignments condition =>
      obtain ⟨hnames, hcondition⟩ := List.append_subset.mp
        (List.Subset.refl (table :: assignments.map Assignment.column ++ condition.columns))
      obtain ⟨htable, hcolumns⟩ := List.cons_subset.mp hnames
      have hupdate := database.failsOnly_onTable htable fun found =>
        found.failsOnly_update hcolumns hcondition
      exact hupdate.bind fun _ => failsOnly_ok _
  | delete table condition =>
      have hdelete := database.failsOnly_onTable (.head condition.columns) fun found =>
        found.failsOnly_delete (List.subset_cons_self table condition.columns)
      exact hdelete.bind fun _ => failsOnly_ok _

/-- So does a query. -/
theorem failsOnly_query (query : Query) :
    FailsOnly (Error.About query.mentioned) (database.query query) := by
  cases query with
  | select selection =>
      obtain ⟨hnames, hcondition⟩ := List.append_subset.mp
        (List.Subset.refl (Query.select selection).mentioned)
      obtain ⟨htable, hcolumns⟩ := List.cons_subset.mp hnames
      exact (database.failsOnly_table htable).bind fun found =>
        found.failsOnly_select hcolumns hcondition
  | join asked =>
      have hmentioned := List.Subset.refl (Query.join asked).mentioned
      simp only [Query.mentioned, List.cons_subset] at hmentioned
      obtain ⟨hleft, hright, hleftColumn, hrightColumn, -⟩ := hmentioned
      exact (database.failsOnly_table hleft).bind fun left =>
        (database.failsOnly_table hright).bind fun right =>
          (left.failsOnly_resolve hleftColumn).bind fun _ =>
            (right.failsOnly_resolve hrightColumn).bind fun _ => failsOnly_ok _

end Database

end Rowbase
