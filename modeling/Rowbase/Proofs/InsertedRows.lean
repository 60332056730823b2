import Rowbase.Proofs.CutOffSaves
import Rowbase.Proofs.InsertLines
import Rowbase.Proofs.SeparateDatabases

/-!
# Inserted rows

Where no save fails, a line that inserts values adds one row to its table. A query for the whole
table then has one line more: the next identity, and the values as they were written.
-/

namespace Rowbase

/-! ## Saves that succeed -/

/-- No save fails or is cut off. -/
structure Storage.Accepts (storage : Storage) : Prop where
  returns : storage.stops = false
  saves : ∀ faults, storage.mode = .folder faults → faults.save = false

/-- Every table is regular and has a name that can be written in a line. -/
def Database.Queryable (database : Database) : Prop :=
  database.All fun table => table.Regular ∧ Token.Named table.name

theorem Database.lasting_queryable : Database.Lasting Queryable where
  create name := .create _ name
  change {database changed change} h hnames hchange := by
    refine All.of_change h (fun _ htable => htable) ?_ ?_ hchange
    · rintro name columns table rfl hcreate
      rw [(Table.name_nextId_of_create hcreate).1]
      exact ⟨.create hcreate, hnames name (.head _)⟩
    · intro table next _ htable hstep
      rw [hstep.follows.name]
      exact ⟨htable.1.step hstep, htable.2⟩

namespace Database

variable {database : Database} {name : String} {table : Table}

theorem Queryable.regular (h : database.Queryable) (htable : database.table name = .ok table) :
    table.Regular :=
  (h _ _ (table_eq_ok_iff.mp htable)).2.1

/-- A table can be named in a line by any spelling that finds it. -/
theorem Queryable.named (h : database.Queryable) (htable : database.table name = .ok table) :
    Token.Named name := by
  obtain ⟨hkey, -, hnamed⟩ := h _ _ (table_eq_ok_iff.mp htable)
  exact hnamed.of_key_eq hkey

theorem table_put : (database.put name table).table name = .ok table :=
  table_eq_ok_iff.mpr (by simp [put])

end Database

namespace Store

variable {good : Database → Prop} {store : Store} {name : String} {database changed : Database}

/-- A database that can be kept is saved. -/
theorem Orderly.save_accepted (h : store.Orderly good) (haccepts : store.storage.Accepts)
    (hkeeps : store.storage.mode.Keeps good database) :
    ∃ after, store.storage.save database = (after, .saved) := by
  by_cases hfolder : ∃ faults, store.storage.mode = .folder faults
  · obtain ⟨faults, hmode⟩ := hfolder
    have hfits := Nat.not_lt_of_le (hkeeps.fits faults hmode)
    rw [Storage.save_of_simple hmode h.stored.flat hkeeps.simple, haccepts.saves faults hmode,
      if_neg hfits]
    exact ⟨_, rfl⟩
  · have htransient : store.storage.Transient := not_exists.mp hfolder
    rw [htransient.save database, haccepts.returns]
    exact ⟨_, rfl⟩

theorem fetch_put (store : Store) (name : String) (database : Database) :
    ((store.put name database).fetch name).2 = .ok database := by
  simp [fetch, put]

/-- Where saves are accepted, a change that can be made is made. -/
theorem Orderly.change_accepted (h : store.Orderly good) (hlasting : Database.Lasting good)
    (haccepts : store.storage.Accepts) (hsimple : Name.Simple name) {change : Change}
    (hnames : ∀ name ∈ change.mentioned, Token.Named name)
    (hfetch : (store.fetch name).2 = .ok database)
    (hchange : database.change change = .ok changed) :
    (store.change name change).2 = .done ∧
      ((store.change name change).1.fetch name).2 = .ok changed := by
  have hkeeps := ((h.fetch hsimple).2 database hfetch).2
  have hname : changed.name = database.name := (Database.step_of_change hchange).name
  have hkept : store.storage.mode.Keeps good changed :=
    ⟨hname ▸ hkeeps.simple, hname ▸ hkeeps.fits, hlasting.change hkeeps.good hnames hchange⟩
  obtain ⟨after, hsave⟩ := h.save_accepted haccepts hkept
  rw [change_eq, hfetch, ok_bind, hchange, Store.replace, storage_fetch, hsave]
  exact ⟨rfl, fetch_put _ name changed⟩

/-- A query for a whole table lists it. -/
theorem query_selectAll (hfetch : (store.fetch name).2 = .ok database) {spelling : String}
    {table : Table} (htable : database.table spelling = .ok table) (hregular : table.Regular) :
    (store.query name (.select { table := spelling, columns := none, condition := none })).2 =
      .listing { header := table.columns, rows := table.rows } := by
  rw [query_eq, hfetch, ok_bind]
  simp [Outcome.ofAnswer, Database.query, htable, Table.select_all hregular.width]

end Store

/-! ## Rows and responses -/

namespace Response

/-- One row more is one line more. -/
theorem ofListing_concat (header row : List String) (rows : List Row) :
    ofListing { header, rows := rows ++ [row] } =
      ofListing { header, rows } ++ "\n" ++ line row := by
  have hlines : okMark :: line header :: (rows ++ [row]).map line =
      (okMark :: line header :: rows.map line) ++ [line row] := by
    simp
  rw [ofListing, hlines, String.intercalate_append_of_ne_nil (by simp) (by simp),
    String.intercalate_singleton]
  rfl

end Response

/-- An identity and the fields of literals that are read from a line can stand in a listing. -/
theorem showable_of_insert {text table : String} {literals : List Literal}
    (h : Command.ofLine text = .ok (.change (.insert table literals))) (id : Nat) :
    Response.Showable (toString id :: literals.map Literal.field) := by
  have hfields : ∀ literal ∈ literals, Text.Plain literal.field := (Command.sound_of_ofLine h).2
  refine Table.showable_of_plain (by simp) ?_
  rw [List.forall_mem_cons]
  exact ⟨Table.plain_toString id, List.forall_mem_map.mpr hfields⟩

namespace Service

variable {service : Service} {number : Nat} {name spelling text : String} {database : Database}
  {table : Table}

theorem line_change (hcurrent : (service.sessions number).current = some name)
    {change : Change} (hline : Command.ofLine text = .ok (.change change)) :
    (service.line number text).2 = (service.store.change name change).2 ∧
      (service.line number text).1.store = (service.store.change name change).1 ∧
      ((service.line number text).1.sessions number).current = some name := by
  simp [line, Session.run, Session.execute, Session.withCurrent, hline, hcurrent]

theorem line_query (hcurrent : (service.sessions number).current = some name)
    {query : Query} (hline : Command.ofLine text = .ok (.query query)) :
    (service.line number text).2 = (service.store.query name query).2 := by
  simp [line, Session.run, Session.execute, Session.withCurrent, hline, hcurrent]

theorem Orderly.queryable (h : service.Orderly Database.Queryable)
    (hcurrent : (service.sessions number).current = some name)
    (hfetch : (service.store.fetch name).2 = .ok database) : database.Queryable :=
  ((h.store.fetch (h.simple number name hcurrent)).2 database hfetch).2.good

/-- A query for a whole table of the current database lists it. -/
theorem Orderly.line_selectAll (h : service.Orderly Database.Queryable)
    (hcurrent : (service.sessions number).current = some name)
    (hfetch : (service.store.fetch name).2 = .ok database)
    (htable : database.table spelling = .ok table) :
    (service.line number (selectAll spelling)).2 =
      .listing { header := table.columns, rows := table.rows } := by
  have hqueryable := h.queryable hcurrent hfetch
  have hline := ofLine_selectAll (hqueryable.named htable)
  rw [line_query hcurrent hline]
  exact Store.query_selectAll hfetch htable (hqueryable.regular htable)

/-- Where saves succeed, a line that inserts as many literals as there are columns beside the
identities is done, and a query for the whole table then lists a row more. -/
theorem Orderly.line_insert (h : service.Orderly Database.Queryable)
    (haccepts : service.store.storage.Accepts)
    (hcurrent : (service.sessions number).current = some name)
    (hfetch : (service.store.fetch name).2 = .ok database)
    (htable : database.table spelling = .ok table) {literals : List Literal}
    (hline : Command.ofLine text = .ok (.change (.insert spelling literals)))
    (hlength : literals.length + 1 = table.columns.length) :
    (service.line number text).2 = .done ∧
      ((service.line number text).1.line number (selectAll spelling)).2 =
        .listing {
          header := table.columns
          rows := table.rows ++ [toString table.nextId :: literals.map Literal.field] } := by
  have hnames : ∀ name ∈ Change.mentioned (.insert spelling literals), Token.Named name :=
    fun _ => Command.named_of_ofLine hline
  obtain ⟨hdone, hfetched⟩ := h.store.change_accepted Database.lasting_queryable haccepts
    (h.simple number name hcurrent) hnames
    hfetch (Database.change_insert htable (by omega))
  obtain ⟨houtcome, hstore, hcurrent'⟩ := line_change hcurrent hline
  have hafter := h.line Database.lasting_queryable number text
  rw [← hstore] at hfetched
  exact ⟨houtcome.trans hdone, hafter.line_selectAll hcurrent' hfetched Database.table_put⟩

/-- In a service that started with an empty folder and whose saves succeed, a line that inserts
written values into a table with as many columns beside the identities adds one line to what a
query for the whole table is answered. It shows the next identity and the fields of the values. -/
theorem listing_of_insertLine (mode : Storage.Mode) (path : String) (history : List Event)
    {written fields : List String} :
    let service := ((create { mode, folder := .create path }).handleAll history).1
    service.store.storage.Accepts →
    (service.sessions number).current = some name →
    (service.store.fetch name).2 = .ok database →
    database.table spelling = .ok table →
    written ≠ [] →
    written.length + 1 = table.columns.length →
    List.Forall₂ Spelled written fields →
    (service.line number (insertLine spelling written)).2 = .done ∧
      (service.line number (selectAll spelling)).2 =
        .listing { header := table.columns, rows := table.rows } ∧
      ∃ added, '\n' ∉ added.toList ∧
        Response.fields added.toList = toString table.nextId :: fields ∧
        Response.ofOutcome ((service.line number (insertLine spelling written)).1.line number
            (selectAll spelling)).2 =
          Response.ofOutcome (service.line number (selectAll spelling)).2 ++ "\n" ++ added := by
  intro service haccepts hcurrent hfetch htable hne hlength hspelled
  have horderly : service.Orderly Database.Queryable :=
    orderly_of_history Database.lasting_queryable mode path history
  have hnamed := (horderly.queryable hcurrent hfetch).named htable
  obtain ⟨literals, rfl, hinsert⟩ := ofLine_insertLine hnamed hspelled hne
  have hcount : literals.length + 1 = table.columns.length := by
    rw [← hlength, hspelled.length_eq, List.length_map]
  have hbefore := horderly.line_selectAll hcurrent hfetch htable
  obtain ⟨hdone, hafter⟩ := horderly.line_insert haccepts hcurrent hfetch htable hinsert hcount
  have hshowable := showable_of_insert hinsert table.nextId
  refine ⟨hdone, hbefore, Response.line (toString table.nextId :: literals.map Literal.field),
    Response.not_mem_line hshowable, Response.fields_line hshowable, ?_⟩
  rw [hafter, hbefore]
  exact Response.ofListing_concat _ _ _

/-- A database is made and chosen, and a table in it. -/
def furnished : List Event :=
  [.line 0 "CREATE DATABASE shop;", .line 0 "USE shop;", .line 0 "CREATE TABLE t (a, b, c);"]

/-- A service with a table that is empty. -/
def furnishedShop : Service :=
  ((create { mode := .memory, folder := .create "" }).handleAll furnished).1

/-- The table with three columns beside the identities. -/
def emptyTable : Table where
  name := "t"
  columns := ["id", "a", "b", "c"]
  rows := []
  nextId := 1

theorem run_furnish :
    Session.run { current := some (Name.key "shop") } shopStore "CREATE TABLE t (a, b, c);" =
      ({ current := some (Name.key "shop") },
        shopStore.put (Name.key "shop") ((Database.create "shop").put "t" emptyTable), .done) := by
  have hline : Command.ofLine "CREATE TABLE t (a, b, c);" =
      .ok (.change (.createTable "t" ["a", "b", "c"])) := by
    cbv
  have htable : Table.create "t" ["a", "b", "c"] = .ok emptyTable := by
    cbv
  have hchange : (Database.create "shop").change (.createTable "t" ["a", "b", "c"]) =
      .ok ((Database.create "shop").put "t" emptyTable) := by
    simp [Database.change, Database.createTable, Database.create, NameMap.contains, htable]
  have htransient : shopStore.storage.Transient := fun _ hmode => by cases hmode
  have hfound : shopStore.databases.find? (Name.key (Name.key "shop")) =
      some (Database.create "shop") := by
    simp [shopStore, Store.put, Name.key_key]
  have hstops : shopStore.storage.stops = false := rfl
  simp [Session.run, hline, Session.execute, Session.withCurrent,
    Store.change_transient htransient hfound, hchange, hstops]

theorem state_furnishedShop :
    furnishedShop.store =
        shopStore.put (Name.key "shop") ((Database.create "shop").put "t" emptyTable) ∧
      (furnishedShop.sessions 0).current = some (Name.key "shop") := by
  obtain ⟨hmade, hchosen⟩ := run_shop
  rw [Store.inMemory] at hmade
  simp [furnishedShop, furnished, handleAll, handle, line, create, hmade, hchosen, run_furnish]

/-- A text with a comma, a quote and a semicolon, a number with zeros and a word in both cases. -/
def samples : List String :=
  ["'a, \"b\";'", "+007.50", "fAlSe"]

theorem spelled_samples : List.Forall₂ Spelled samples ["a, \"b\";", "+007.50", "FALSE"] := by
  have hcontent : Text.Plain "a, \"b\";" := Text.plain_of_all (by decide +kernel)
  have hquoted : '\''.toString ++ "a, \"b\";" ++ '\''.toString = "'a, \"b\";'" := by
    decide +kernel
  have htext := Spelled.quoted (.inl rfl) hcontent (by decide)
  rw [hquoted] at htext
  have hwhole : Digits "007" := ⟨by decide, by simp⟩
  have hplaces : Digits "50" := ⟨by decide, by simp⟩
  have hnumeral : "+" ++ ("007" ++ "." ++ "50") = "+007.50" := by
    decide +kernel
  have hdecimal := Spelled.decimal (.tail _ (.head _)) hwhole hplaces
  rw [hnumeral] at hdecimal
  have hsame : Name.Same "fAlSe" (spellBoolean false) := by
    rw [Name.Same, ← String.toList_inj, Name.toList_key, Name.toList_key]
    decide
  exact .cons htext (.cons hdecimal (.cons (.boolean hsame) .nil))

theorem listing_of_samples :
    furnishedShop.store.storage.Accepts ∧
      (furnishedShop.sessions 0).current = some (Name.key "shop") ∧
      (furnishedShop.store.fetch (Name.key "shop")).2 =
        .ok ((Database.create "shop").put "t" emptyTable) ∧
      ((Database.create "shop").put "t" emptyTable).table "t" = .ok emptyTable ∧
      samples ≠ [] ∧
      samples.length + 1 = emptyTable.columns.length ∧
      List.Forall₂ Spelled samples ["a, \"b\";", "+007.50", "FALSE"] ∧
      (furnishedShop.line 0 (insertLine "t" samples)).2 = .done ∧
      (furnishedShop.line 0 (selectAll "t")).2 =
        .listing { header := ["id", "a", "b", "c"], rows := [] } ∧
      ∃ added, '\n' ∉ added.toList ∧
        Response.fields added.toList = ["1", "a, \"b\";", "+007.50", "FALSE"] ∧
        Response.ofOutcome ((furnishedShop.line 0 (insertLine "t" samples)).1.line 0
            (selectAll "t")).2 =
          Response.ofOutcome (furnishedShop.line 0 (selectAll "t")).2 ++ "\n" ++ added := by
  obtain ⟨hstore, hcurrent⟩ := state_furnishedShop
  have haccepts : furnishedShop.store.storage.Accepts := by
    rw [hstore]
    exact ⟨rfl, fun _ hmode => by cases hmode⟩
  have hfetch : (furnishedShop.store.fetch (Name.key "shop")).2 =
      .ok ((Database.create "shop").put "t" emptyTable) := by
    rw [hstore]
    exact Store.fetch_put _ _ _
  have htable : ((Database.create "shop").put "t" emptyTable).table "t" = .ok emptyTable :=
    Database.table_put
  have hne : samples ≠ [] := List.cons_ne_nil _ _
  have hone : toString emptyTable.nextId = "1" := rfl
  refine ⟨haccepts, hcurrent, hfetch, htable, hne, rfl, spelled_samples, ?_⟩
  rw [← hone]
  exact listing_of_insertLine .memory "" furnished haccepts hcurrent hfetch htable hne rfl
    spelled_samples

end Service

end Rowbase
