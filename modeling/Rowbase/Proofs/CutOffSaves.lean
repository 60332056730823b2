import Rowbase.Proofs.Boundaries
import Rowbase.Proofs.ListingRoundTrip
import Rowbase.Proofs.NameMaps
import Rowbase.Proofs.PlainTexts
import Rowbase.Proofs.TransientStores

/-!
# Saves that are cut off

In a store that keeps nothing, a line that is answered with an error leaves no trace, with one
exception: a change whose save is cut off stays in use, as if the save had returned. A query
for the whole table tells the difference, unless the change has left the database as it was.
-/

namespace Rowbase

/-! ## Showing a whole table -/

/-- The line that asks for all rows and columns of a table. -/
def selectAll (table : String) : String :=
  "SELECT * FROM " ++ table ++ ";"

theorem ofLine_selectAll {table : String} (h : Token.Named table) :
    Command.ofLine (selectAll table) =
      .ok (.query (.select { table, columns := none, condition := none })) := by
  have hchars : (selectAll table).toList = "SELECT".toList ++ ' ' :: '*' :: ' ' ::
      ("FROM".toList ++ ' ' :: (table.toList ++ [';'])) := by
    simp [selectAll]
  have hselect : Token.scanChars "SELECT".toList = .ok [.keyword .select] := by cbv
  have hfrom : Token.scanChars "FROM".toList = .ok [.keyword .«from»] := by cbv
  have hend : Token.scanChars [';'] = .ok [.symbol .semicolon] := by cbv
  have hbounded : Token.Bounded [';'] :=
    Token.bounded_cons (by decide) (by decide) (by decide) _
  have hscan : Token.scan (selectAll table) = .ok [.keyword .select, .symbol .star,
      .keyword .«from», .name table, .symbol .semicolon] := by
    rw [Token.scan, hchars, Token.scanChars_append_space hselect,
      Token.scanChars_single rfl (by decide), Token.scanChars_cons_blank (by decide),
      Token.scanChars_append_space hfrom, Token.scanChars_append hbounded h.scanChars_eq, hend]
    rfl
  unfold Command.ofLine
  rw [hscan]
  rfl

namespace Table

theorem marked_all (rows : List Row) : marked (rows.map fun _ => true) rows = rows := by
  simpa using marked_map (fun _ => true) id rows

/-- Without a condition and a choice of columns the listing is the table. -/
theorem select_all {table : Table}
    (h : ∀ row ∈ table.rows, row.length = table.columns.length) :
    table.select none none = .ok { header := table.columns, rows := table.rows } := by
  have hrows : (table.rows.map fun row => project row (List.range table.columns.length)) =
      table.rows := by
    refine (List.map_congr_left (g := id) ?_).trans (List.map_id _)
    intro row hrow
    rw [← h row hrow]
    exact project_range row
  simp only [select, wanted, matchingAll, ok_bind, marked_all, hrows, project_range]
  rfl

theorem showable_of_plain {texts : List String} (hne : texts ≠ [])
    (h : ∀ text ∈ texts, Text.Plain text) : Response.Showable texts := by
  refine ⟨hne, ?_, ?_⟩
  · intro text htext hmem
    exact absurd (h text htext _ hmem) (by decide)
  · intro text htext hmem
    exact absurd (h text htext _ hmem) (by decide)

/-- Legible tables that are shown alike have the same columns and rows. -/
theorem Legible.eq_of_shown_eq {left right : Table} (hleft : left.Legible)
    (hright : right.Legible)
    (h : Response.ofListing { header := left.columns, rows := left.rows } =
      Response.ofListing { header := right.columns, rows := right.rows }) :
    left.columns = right.columns ∧ left.rows = right.rows := by
  have hshowable {table : Table} (htable : table.Legible) :
      ∀ texts ∈ table.columns :: table.rows, Response.Showable texts := by
    refine List.forall_mem_cons.mpr ⟨?_, ?_⟩
    · exact showable_of_plain htable.rectangular.columns_ne_nil htable.plainColumns
    · intro row hrow
      exact showable_of_plain (htable.rectangular.row_ne_nil hrow) (htable.plainFields row hrow)
  have hlistings := Response.eq_of_ofListing_eq (hshowable hleft) (hshowable hright) h
  simpa using hlistings

/-- A step that leaves the columns and rows as they are leaves the table as it is. -/
theorem Step.eq_of_columns_rows {table next : Table} {change : Change}
    (h : table.Step change next) (hcolumns : table.columns = next.columns)
    (hrows : table.rows = next.rows) : next = table := by
  have hnextId : next.nextId = table.nextId := by
    rw [h.follows.nextId]
    cases h with
    | insert done =>
        obtain ⟨-, -, rfl⟩ := insert_eq_ok_iff.mp done
        simp at hrows
    | _ => rfl
  have hname := h.follows.name
  cases table
  cases next
  simp_all

end Table

/-! ## Stores that keep nothing -/

/-- Every database in use is legible. -/
def Store.Legible (store : Store) : Prop :=
  ∀ key database, store.databases.find? key = some database → database.All Table.Legible

namespace Store

variable {store : Store} {name : String}

theorem Legible.put (h : store.Legible) {database : Database}
    (hdatabase : database.All Table.Legible) : (store.put name database).Legible := by
  intro key other hother
  simp only [Store.put, NameMap.find?_insert] at hother
  split at hother
  · cases hother
    exact hdatabase
  · exact h key other hother

theorem Legible.erase (h : store.Legible) :
    Legible { store with databases := store.databases.erase (Name.key name) } := by
  intro key other hother
  simp only [NameMap.find?_erase] at hother
  split at hother
  · simp at hother
  · exact h key other hother

theorem put_eq_self {database : Database}
    (hfound : store.databases.find? (Name.key name) = some database) :
    store.put name database = store := by
  rw [put, NameMap.insert_eq_self hfound]

end Store

/-! ## What a query tells -/

/-- What the query for a whole table is answered. -/
def Database.shown (database : Database) (name : String) : String :=
  match database.table name with
  | .ok table => Response.ofListing { header := table.columns, rows := table.rows }
  | .error error => Response.ofFailure error.message

namespace Response

/-- A command is answered with an error exactly if it failed or was cut off. -/
theorem errorMark_prefix_iff {outcome : Outcome} :
    errorMark.toList <+: (ofOutcome outcome).toList ↔
      outcome = .stopped ∨ ∃ error, outcome = .failed error := by
  cases outcome with
  | done => simp [ofOutcome, okMark, errorMark]
  | listing listing =>
      simp only [ofOutcome, ofListing]
      rw [String.intercalate_cons_of_ne_nil (by simp)]
      simp [okMark, errorMark]
  | failed error => simp [ofOutcome, ofFailure]
  | stopped => simp [ofOutcome, ofFailure]

end Response

namespace Database

variable {database changed : Database}

theorem shown_of_find? {name : String} {table : Table}
    (h : database.tables.find? (Name.key name) = some table) :
    database.shown name =
      Response.ofListing { header := table.columns, rows := table.rows } := by
  rw [shown, table_eq_ok_iff.mpr h]

theorem shown_of_find?_none {name : String}
    (h : database.tables.find? (Name.key name) = none) :
    database.shown name = Response.ofFailure (Error.unknownTable name).message := by
  simp [shown, table, h]

/-- After a change that made a difference the table it names is shown differently. -/
theorem shown_ne_of_change {change : Change} (h : database.All Table.Legible)
    (hsound : change.Sound) (hchange : database.change change = .ok changed)
    (hne : changed ≠ database) : changed.shown change.target ≠ database.shown change.target := by
  have hafter := h.legible_of_change hsound hchange
  cases step_of_change hchange with
  | @createTable name columns table free created =>
      have hnone : database.tables.find? (Name.key name) = none := by
        simpa [NameMap.contains] using free
      have hsome : (database.put name table).tables.find? (Name.key name) = some table := by
        simp [put]
      rw [Change.target, shown_of_find? hsome, shown_of_find?_none hnone]
      exact Response.ofListing_ne_ofFailure _ _
  | @dropTable name table found =>
      have hsome := table_eq_ok_iff.mp found
      have hnone : (database.tables.erase (Name.key name)).find? (Name.key name) = none := by
        simp
      rw [Change.target, shown_of_find?_none hnone, shown_of_find? hsome]
      exact (Response.ofListing_ne_ofFailure _ _).symm
  | @onTable _ table next found step =>
      have hbefore := table_eq_ok_iff.mp found
      have hnext : (database.put change.target next).tables.find? (Name.key change.target) =
          some next := by
        simp [put]
      rw [shown_of_find? hnext, shown_of_find? hbefore]
      intro hshown
      obtain ⟨hcolumns, hrows⟩ :=
        (hafter _ _ hnext).2.eq_of_shown_eq (h _ _ hbefore).2 hshown
      apply hne
      rw [step.eq_of_columns_rows hcolumns.symm hrows.symm, put, NameMap.insert_eq_self hbefore]

end Database

namespace Session

/-- The line changes the current database and is cut off while the change is saved; the change
is not undone. -/
def LeavesChange (session : Session) (store : Store) (line : String) : Prop :=
  ∃ change name database changed, Command.ofLine line = .ok (.change change) ∧
    session.current = some name ∧
      store.databases.find? (Name.key name) = some database ∧
        database.change change = .ok changed ∧ changed ≠ database ∧
          store.storage.mode = .discarding true

variable {session next : Session} {store after : Store} {command : Command} {outcome : Outcome}

/-- A step keeps the databases legible. -/
theorem Step.legible (h : session.Step store command next after outcome)
    (hlegible : store.Legible) (hsound : command.Sound) : after.Legible := by
  cases h with
  | created => exact hlegible.put (Database.All.create _ _)
  | dropped => exact hlegible.erase
  | changed _ found made =>
      exact hlegible.put ((hlegible _ _ found).legible_of_change hsound made)
  | _ => exact hlegible

/-- A step that fails or is cut off leaves everything as it was, unless it is a change. -/
theorem Step.eq_of_failed (h : session.Step store command next after outcome)
    (hfailed : outcome = .stopped ∨ ∃ error, outcome = .failed error)
    (hchange : ∀ change name database changed, command = .change change →
      session.current = some name → store.databases.find? (Name.key name) = some database →
        database.change change = .ok changed → store.storage.mode = .discarding true →
          changed = database) :
    next = session ∧ after = store := by
  cases h with
  | refused => exact ⟨rfl, rfl⟩
  | used => simp at hfailed
  | created => simp at hfailed
  | creationCutOff => exact ⟨rfl, rfl⟩
  | dropped => simp at hfailed
  | @changed change name database changed current found made =>
      cases hstops : store.storage.stops with
      | false => simp [hstops] at hfailed
      | true =>
          have hmode : store.storage.mode = .discarding true := of_decide_eq_true hstops
          rw [hchange change name database changed rfl current found made hmode]
          exact ⟨rfl, Store.put_eq_self found⟩
  | answered => simp at hfailed

/-! ## Whole histories -/

/-- What happens in a session whose store keeps nothing. -/
inductive Input where
  | line (text : String)
  /-- From now on saves are cut off, or they no longer are. -/
  | cutOff (stopping : Bool)
  deriving DecidableEq, Repr

/-- What an input makes of a session and its store, and the response to a line. -/
def handle (session : Session) (store : Store) : Input → Session × Store × Option String
  | .line text =>
    let (session, store, response) := session.respond store text
    (session, store, some response)
  | .cutOff stopping =>
    (session, { store with storage := { store.storage with mode := .discarding stopping } }, none)

/-- The responses to the lines among inputs. -/
def responses (session : Session) (store : Store) : List Input → List (Option String)
  | [] => []
  | input :: rest =>
    let (session, store, response) := session.handle store input
    response :: session.responses store rest

/-- The session and the store after inputs. -/
def handleAll (session : Session) (store : Store) : List Input → Session × Store
  | [] => (session, store)
  | input :: rest =>
    let (session, store, _) := session.handle store input
    session.handleAll store rest

theorem responses_append (first second : List Input) :
    session.responses store (first ++ second) =
      session.responses store first ++
        (session.handleAll store first).1.responses (session.handleAll store first).2 second := by
  induction first generalizing session store with
  | nil => rfl
  | cons input rest ih => simp [responses, handleAll, ih]

theorem length_responses (inputs : List Input) :
    (session.responses store inputs).length = inputs.length := by
  induction inputs generalizing session store with
  | nil => rfl
  | cons input rest ih => simp [responses, ih]

/-- A store that keeps nothing and whose databases are legible. -/
structure Attended (store : Store) : Prop where
  transient : store.storage.Transient
  legible : store.Legible

theorem Attended.run (h : Attended store) (line : String) :
    Attended (session.run store line).2.1 := by
  unfold Session.run
  split
  next command hcommand =>
    have hstep := session.step_execute h.transient command
    have hsound := Command.sound_of_ofLine hcommand
    exact ⟨hstep.storage ▸ h.transient, hstep.legible h.legible hsound⟩
  · exact h

theorem Attended.handleAll (h : Attended store) (inputs : List Input) :
    Attended (session.handleAll store inputs).2 := by
  induction inputs generalizing session store with
  | nil => exact h
  | cons input rest ih =>
      rw [Session.handleAll]
      apply ih
      cases input with
      | line text => exact h.run text
      | cutOff stopping => exact ⟨fun faults hmode => by simp at hmode, h.legible⟩

/-- A line that is answered with an error leaves everything as it was, with one exception. -/
theorem eq_of_run_failed (h : Attended store) {line : String}
    (hfailed : (session.run store line).2.2 = .stopped ∨
      ∃ error, (session.run store line).2.2 = .failed error)
    (hleaves : ¬session.LeavesChange store line) :
    (session.run store line).1 = session ∧ (session.run store line).2.1 = store := by
  cases hcommand : Command.ofLine line with
  | error error => simp [Session.run, hcommand]
  | ok command =>
      have hrun : session.run store line = session.execute store command := by
        simp [Session.run, hcommand]
      rw [hrun] at hfailed ⊢
      refine (session.step_execute h.transient command).eq_of_failed hfailed ?_
      rintro change name database changed rfl hcurrent hfound hmade hcut
      by_contra hne
      exact hleaves ⟨change, name, database, changed, hcommand, hcurrent, hfound, hmade, hne, hcut⟩

/-- A query for a whole table shows the table in the current database. -/
theorem respond_selectAll (h : store.storage.Transient) {name : String}
    {database : Database} (hcurrent : session.current = some name)
    (hfound : store.databases.find? (Name.key name) = some database)
    (hlegible : database.All Table.Legible) {table : String} (htable : Token.Named table) :
    (session.respond store (selectAll table)).2.2 = database.shown table := by
  have hrun : session.run store (selectAll table) = session.execute store
      (.query (.select { table, columns := none, condition := none })) := by
    simp [Session.run, ofLine_selectAll htable]
  rw [Session.respond, hrun]
  simp only [execute, withCurrent, hcurrent, Store.query_transient h hfound]
  cases htables : database.tables.find? (Name.key table) with
  | none =>
      rw [Database.shown_of_find?_none htables]
      simp [Database.query, Database.table, htables, Response.ofOutcome]
  | some found =>
      have hselect := Table.select_all (hlegible _ _ htables).2.width
      rw [Database.shown_of_find? htables]
      simp [Database.query, Database.table, htables, hselect, Response.ofOutcome]

/-- After a change that is left behind, its table is shown differently. -/
theorem LeavesChange.exists_respond_ne (h : Attended store) {line : String}
    (hleaves : session.LeavesChange store line) :
    (session.run store line).2.2 = .stopped ∧
      ∃ query, ((session.run store line).1.respond (session.run store line).2.1 query).2.2 ≠
        (session.respond store query).2.2 := by
  obtain ⟨change, name, database, changed, hline, hcurrent, hfound, hmade, hne, hcut⟩ := hleaves
  have hstops : store.storage.stops = true := decide_eq_true hcut
  have hrun : session.run store line = (session, store.put name changed, .stopped) := by
    simp [Session.run, hline, execute, withCurrent, hcurrent, hmade, hstops,
      Store.change_transient h.transient hfound]
  have hsound := Command.sound_of_ofLine hline
  have hlegible := h.legible _ _ hfound
  have htarget : Token.Named change.target := by
    cases change with
    | createTable | addColumn | dropColumn | insert | update => exact hsound.1
    | dropTable | delete => exact hsound
  have htransient : (store.put name changed).storage.Transient := h.transient
  have hafter : (store.put name changed).databases.find? (Name.key name) = some changed := by
    simp [Store.put]
  have hlegibleAfter := hlegible.legible_of_change hsound hmade
  refine ⟨by rw [hrun], selectAll change.target, ?_⟩
  simp only [hrun]
  rw [respond_selectAll h.transient hcurrent hfound hlegible htarget,
    respond_selectAll htransient hcurrent hafter hlegibleAfter htarget]
  exact Database.shown_ne_of_change hlegible hsound hmade hne

end Session

/-- A store that keeps nothing. -/
def Store.forgetful : Store :=
  create { mode := .discarding false, folder := .create "" }

namespace Session

/-- After any inputs from the start on, the store keeps nothing and is legible. -/
theorem attended_handleAll (before : List Input) :
    Attended (create.handleAll .forgetful before).2 := by
  apply Attended.handleAll
  refine ⟨fun faults hmode => by simp [Store.forgetful, Store.create] at hmode, ?_⟩
  intro key database h
  simp [Store.forgetful, Store.create] at h

/-- Whatever happened before and happens after, a line that is answered with an error can be
left out without any other response changing, exactly if it does not leave a change behind
that was cut off while it was saved. -/
theorem responses_without_iff (before : List Input) (line : String) :
    let (session, store) := create.handleAll .forgetful before
    (Response.errorMark.toList <+: (session.respond store line).2.2.toList →
      ∀ after, (create.responses .forgetful (before ++ .line line :: after)).eraseIdx
          before.length = create.responses .forgetful (before ++ after)) ↔
      ¬session.LeavesChange store line := by
  have hattended := attended_handleAll before
  rcases hstate : create.handleAll .forgetful before with ⟨session, store⟩
  rw [hstate] at hattended
  simp only
  have hwith (after : List Input) :
      (create.responses .forgetful (before ++ .line line :: after)).eraseIdx before.length =
        create.responses .forgetful before ++
          (session.run store line).1.responses (session.run store line).2.1 after := by
    rw [responses_append, hstate, List.eraseIdx_append_of_length_le (by simp [length_responses]),
      length_responses, Nat.sub_self]
    rfl
  have hwithout (after : List Input) : create.responses .forgetful (before ++ after) =
      create.responses .forgetful before ++ session.responses store after := by
    rw [responses_append, hstate]
  constructor
  · intro hsame hleaves
    obtain ⟨hstopped, query, hne⟩ := hleaves.exists_respond_ne hattended
    have hfailed := Response.errorMark_prefix_iff.mpr (.inl hstopped)
    have hresponses := hsame hfailed [.line query]
    rw [hwith, hwithout] at hresponses
    have hqueries := List.append_cancel_left hresponses
    apply hne
    simpa [responses, handle] using hqueries
  · intro hleaves hfailed after
    obtain ⟨hsession, hstore⟩ :=
      eq_of_run_failed hattended (Response.errorMark_prefix_iff.mp hfailed) hleaves
    rw [hwith, hwithout, hsession, hstore]

/-- A database is made and chosen, and then saves are cut off. -/
def preparation : List Input :=
  [.line "CREATE DATABASE d;", .line "USE d;", .cutOff true]

/-- A table whose creation was answered with an error is there all the same. -/
theorem responses_without_creation :
    let (session, store) := create.handleAll .forgetful preparation
    ¬(Response.errorMark.toList <+: (session.respond store "CREATE TABLE t;").2.2.toList →
      ∀ after, (create.responses .forgetful
          (preparation ++ .line "CREATE TABLE t;" :: after)).eraseIdx preparation.length =
        create.responses .forgetful (preparation ++ after)) := by
  have hstate : create.handleAll .forgetful preparation =
      ({ current := some "d" },
        { databases := NameMap.empty.insert "d" (Database.create "d")
          storage := { mode := .discarding true, folder := .create "" } }) := by
    cbv
  have hline : Command.ofLine "CREATE TABLE t;" = .ok (.change (.createTable "t" [])) := by
    cbv
  have hiff := responses_without_iff preparation "CREATE TABLE t;"
  rw [hstate] at hiff ⊢
  refine mt hiff.mp (not_not.mpr ?_)
  exact ⟨_, "d", Database.create "d", _, hline, rfl, by cbv, rfl, by decide, rfl⟩

end Session

end Rowbase
