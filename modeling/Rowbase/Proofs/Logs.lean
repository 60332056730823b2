import Rowbase.Proofs.Ledgers
import Rowbase.Proofs.TransientStores

/-!
# Logs of tables

The commands of a history that were done are logged for each table, from the one that created it
to the one that dropped it or its database. A database in memory has exactly the tables that the
logs tell of, each as the ledger of its log shows it, and every step of a session keeps it so.
-/

namespace Rowbase

/-! ## Logs -/

/-- The successful changes to a table since it was created, and what it was created with. -/
structure TableLog where
  name : String
  columns : List String
  changes : List Change
  deriving DecidableEq, Repr

namespace TableLog

/-- How many rows have been inserted. -/
def inserts (log : TableLog) : Nat :=
  (log.changes.map Change.inserted).sum

/-- The ledger that the changes make. -/
def ledger (log : TableLog) : Ledger :=
  log.changes.foldl Ledger.after (.start log.columns)

/-- The table that shows the ledger. -/
def table (log : TableLog) : Table :=
  log.ledger.table log.name

/-- The log with one change more. -/
def add (log : TableLog) (change : Change) : TableLog :=
  { log with changes := log.changes ++ [change] }

@[simp] theorem ledger_add (log : TableLog) (change : Change) :
    (log.add change).ledger = log.ledger.after change := by
  simp [ledger, add]

@[simp] theorem inserts_add (log : TableLog) (change : Change) :
    (log.add change).inserts = log.inserts + change.inserted := by
  simp [inserts, add]

/-- What holds of logs without changes, and of a log with one change more, holds of all logs. -/
theorem induct_add {motive : TableLog → Prop} (start : ∀ name columns, motive ⟨name, columns, []⟩)
    (add : ∀ log change, motive log → motive (log.add change)) (log : TableLog) : motive log := by
  obtain ⟨name, columns, changes⟩ := log
  induction changes using List.reverseRecOn with
  | nil => exact start name columns
  | append_singleton changes change ih => exact add ⟨name, columns, changes⟩ change ih

theorem ordered_ledger (log : TableLog) : log.ledger.Ordered := by
  induction log using induct_add with
  | start name columns => exact Ledger.ordered_start columns
  | add log change ih =>
      rw [ledger_add]
      exact ih.after change

theorem inserted_ledger (log : TableLog) : log.ledger.inserted = log.inserts := by
  induction log using induct_add with
  | start name columns => rfl
  | add log change ih => rw [ledger_add, inserts_add, Ledger.inserted_after, ih]

end TableLog

/-- The logs of tables, by the key of the database and the key of the table. -/
abbrev Logs := String → String → Option TableLog

namespace Logs

/-- No table has a log. -/
def empty : Logs :=
  fun _ _ => none

/-- Fewer rows than the given number have been inserted into each table. -/
def InsertsBelow (logs : Logs) (limit : Nat) : Prop :=
  ∀ database table log, logs database table = some log → log.inserts < limit

/-- The logs without those of a database. -/
def clear (logs : Logs) (database : String) : Logs :=
  fun other table => if database = other then none else logs other table

/-- The logs with another one for a table, or with none. -/
def set (logs : Logs) (database table : String) (log : Option TableLog) : Logs :=
  fun other name => if database = other ∧ table = name then log else logs other name

/-- The log of the table that a successful change names. -/
def entry (logs : Logs) (database : String) : Change → Option TableLog
  | .createTable name columns => some { name, columns, changes := [] }
  | .dropTable _ => none
  | change => (logs database (Name.key change.target)).map (·.add change)

/-- The logs after a successful command of a session that has chosen the given database. -/
def after (logs : Logs) (current : Option String) : Command → Logs
  | .createDatabase name | .dropDatabase name => logs.clear (Name.key name)
  | .change change =>
    match current with
    | some name =>
      logs.set (Name.key name) (Name.key change.target) (logs.entry (Name.key name) change)
    | none => logs
  | .use _ | .query _ => logs

/-- The logs after a line. Only a command that is done is logged. -/
def afterLine (logs : Logs) (current : Option String) (line : String) (outcome : Outcome) : Logs :=
  match Command.ofLine line with
  | .ok command => if outcome = .done then logs.after current command else logs
  | .error _ => logs

/-! ### Numbers of insertions -/

namespace InsertsBelow

variable {logs : Logs} {limit : Nat}

theorem mono (h : logs.InsertsBelow limit) {larger : Nat} (hle : limit ≤ larger) :
    logs.InsertsBelow larger :=
  fun database table log hlog => (h database table log hlog).trans_le hle

theorem succ (h : logs.InsertsBelow limit) : logs.InsertsBelow (limit + 1) :=
  h.mono (Nat.le_succ limit)

theorem clear (h : logs.InsertsBelow limit) (database : String) :
    (logs.clear database).InsertsBelow limit := by
  intro other table log hlog
  unfold Logs.clear at hlog
  split at hlog
  · simp at hlog
  · exact h other table log hlog

theorem set (h : logs.InsertsBelow limit) {entry : Option TableLog} (database table : String)
    (hentry : ∀ log, entry = some log → log.inserts < limit) :
    (logs.set database table entry).InsertsBelow limit := by
  intro other name log hlog
  unfold Logs.set at hlog
  split at hlog
  · exact hentry log hlog
  · exact h other name log hlog

theorem entry (h : logs.InsertsBelow limit) {database : String} {change : Change}
    {log : TableLog} (hlog : logs.entry database change = some log) : log.inserts < limit + 1 := by
  have hadd (hlog : (logs database (Name.key change.target)).map (·.add change) = some log) :
      log.inserts < limit + 1 := by
    obtain ⟨before, hbefore, rfl⟩ := Option.map_eq_some_iff.mp hlog
    have hcount := h database _ before hbefore
    have hone := change.inserted_le_one
    rw [TableLog.inserts_add]
    omega
  cases change with
  | createTable name columns =>
      cases hlog
      exact Nat.succ_pos limit
  | dropTable name => cases hlog
  | addColumn | dropColumn | insert | update | delete => exact hadd hlog

/-- A command inserts one row at most. -/
theorem after (h : logs.InsertsBelow limit) (current : Option String) (command : Command) :
    (logs.after current command).InsertsBelow (limit + 1) := by
  cases command with
  | createDatabase name => exact h.succ.clear _
  | dropDatabase name => exact h.succ.clear _
  | change change =>
      cases current with
      | some name => exact h.succ.set _ _ fun log hlog => h.entry hlog
      | none => exact h.succ
  | use name => exact h.succ
  | query query => exact h.succ

end InsertsBelow

end Logs

/-! ## Stores that show logs -/

/-- A database has exactly the tables of the logs. -/
def Database.Shows (log? : String → Option TableLog) (database : Database) : Prop :=
  ∀ key, database.tables.find? key = (log? key).map TableLog.table

/-- The databases in use have exactly the tables of the logs. -/
def Store.Shows (logs : Logs) (store : Store) : Prop :=
  ∀ database key,
    (store.databases.find? database).bind (·.tables.find? key) =
      (logs database key).map TableLog.table

variable {logs : Logs}

/-- A step of a table makes its log longer by the change. -/
theorem Logs.entry_of_step {table next : Table} {change : Change} (h : table.Step change next)
    (name : String) :
    logs.entry name change = (logs name (Name.key change.target)).map (·.add change) := by
  cases h <;> rfl

namespace Database

variable {database changed : Database} {name : String}

theorem Shows.exists_log (h : database.Shows (logs name)) {key : String} {table : Table}
    (hfound : database.tables.find? key = some table) :
    ∃ log, logs name key = some log ∧ table = log.table := by
  obtain ⟨log, hlog, htable⟩ := Option.map_eq_some_iff.mp ((h key).symm.trans hfound)
  exact ⟨log, hlog, htable.symm⟩

theorem Shows.set (h : database.Shows (logs name)) {key : String} {log : Option TableLog}
    (hchanged : ∀ other, changed.tables.find? other =
      if key = other then log.map TableLog.table else database.tables.find? other) :
    changed.Shows (logs.set name key log name) := by
  intro other
  rw [hchanged, Logs.set]
  simp only [true_and]
  split
  · rfl
  · exact h other

theorem Shows.change (h : database.Shows (logs name)) {change : Change}
    (hchange : database.change change = .ok changed) :
    changed.Shows (logs.set name (Name.key change.target) (logs.entry name change) name) := by
  cases step_of_change hchange with
  | createTable free created =>
      refine h.set fun other => ?_
      rw [Database.put, NameMap.find?_insert, Ledger.eq_table_of_create created]
      rfl
  | dropTable found => exact h.set fun other => NameMap.find?_erase ..
  | @onTable _ table next found step =>
      obtain ⟨log, hlog, rfl⟩ := h.exists_log (table_eq_ok_iff.mp found)
      refine h.set fun other => ?_
      rw [Database.put, NameMap.find?_insert, Logs.entry_of_step step, hlog,
        Ledger.eq_table_of_step step]
      simp only [Option.map_some, TableLog.table, TableLog.ledger_add]
      rfl

end Database

namespace Store

variable {store : Store} {name : String}

theorem Shows.database (h : store.Shows logs) {key : String} {database : Database}
    (hfound : store.databases.find? key = some database) : database.Shows (logs key) := by
  intro table
  rw [← h, hfound]
  rfl

theorem Shows.put (h : store.Shows logs) {database : Database} {later : Logs}
    (hdatabase : database.Shows (later (Name.key name)))
    (hlater : ∀ key, Name.key name ≠ key → later key = logs key) :
    (store.put name database).Shows later := by
  intro key table
  rw [Store.put, NameMap.find?_insert]
  split
  next heq => exact heq ▸ hdatabase table
  next hne =>
    rw [hlater key hne]
    exact h key table

theorem Shows.erase (h : store.Shows logs) :
    Shows (logs.clear (Name.key name))
      { store with databases := store.databases.erase (Name.key name) } := by
  intro key table
  simp only [NameMap.find?_erase, Logs.clear]
  split
  · rfl
  · exact h key table

end Store

theorem Storage.transient_of_memory {storage : Storage} (h : storage.mode = .memory) :
    storage.Transient := by
  intro faults hmode
  simp [h] at hmode

namespace Session

variable {session next : Session} {store after : Store}

/-- A step of a store in memory shows the logs after it. -/
theorem Step.shows {command : Command} {outcome : Outcome}
    (hstep : session.Step store command next after outcome)
    (hstops : store.storage.stops = false) (h : store.Shows logs) :
    after.Shows (if outcome = .done then logs.after session.current command else logs) := by
  cases hstep with
  | refused error => exact h
  | used name => exact h
  | created name =>
      refine h.put (fun table => ?_) fun key hne => ?_
      · simp [Database.create, Logs.after, Logs.clear]
      · funext table
        simp [Logs.after, Logs.clear, hne]
  | creationCutOff name => exact h
  | dropped name next => exact h.erase
  | @changed change name database changed current found made =>
      simp only [hstops, Bool.false_eq_true, if_false, if_true, Logs.after, current]
      refine h.put ((h.database found).change made) fun key hne => ?_
      funext table
      simp [Logs.set, hne]
  | answered query listing => exact h

theorem shows_run (hmemory : store.storage.mode = .memory) (h : store.Shows logs)
    (session : Session) (line : String) :
    (session.run store line).2.1.Shows
      (logs.afterLine session.current line (session.run store line).2.2) := by
  have htransient := Storage.transient_of_memory hmemory
  have hstops : store.storage.stops = false := by simp [Storage.stops, hmemory]
  cases hcommand : Command.ofLine line with
  | ok command =>
      simp only [run, Logs.afterLine, hcommand]
      exact (session.step_execute htransient command).shows hstops h
  | error error =>
      simp only [run, Logs.afterLine, hcommand]
      exact h

theorem storage_run (hmemory : store.storage.mode = .memory) (session : Session)
    (line : String) : (session.run store line).2.1.storage = store.storage := by
  have htransient := Storage.transient_of_memory hmemory
  unfold run
  split
  next command _ => exact (session.step_execute htransient command).storage
  · rfl

/-- The table that rows are inserted into has a log. -/
theorem Step.exists_log_of_insert {name : String} {values : List Literal} {outcome : Outcome}
    (hstep : session.Step store (.change (.insert name values)) next after outcome)
    (hdone : outcome = .done) (h : store.Shows logs) :
    ∃ current log, session.current = some current ∧
      logs (Name.key current) (Name.key name) = some log := by
  cases hstep with
  | refused error => simp at hdone
  | @changed _ current database changed hcurrent found made =>
      cases Database.step_of_change made with
      | onTable table step =>
          obtain ⟨log, hlog, -⟩ :=
            (h.database found).exists_log (Database.table_eq_ok_iff.mp table)
          exact ⟨current, log, hcurrent, hlog⟩

theorem exists_log_of_insert (hmemory : store.storage.mode = .memory) (h : store.Shows logs)
    {line name : String} {values : List Literal}
    (hline : Command.ofLine line = .ok (.change (.insert name values)))
    (hdone : (session.run store line).2.2 = .done) :
    ∃ current log, session.current = some current ∧
      logs (Name.key current) (Name.key name) = some log := by
  have htransient := Storage.transient_of_memory hmemory
  simp only [run, hline] at hdone
  exact (session.step_execute htransient _).exists_log_of_insert hdone h

end Session

end Rowbase
