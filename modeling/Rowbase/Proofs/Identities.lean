import Rowbase.Proofs.DurableRefinement
import Rowbase.Proofs.Logs

/-!
# Identities over a history

The identities in a table number the rows that were ever inserted into it, whatever was undone,
removed, altered or loaded again in between. What carries this through a history is that the
service in memory that a service stands for shows the logs; a line that fails for the storage
touches neither.
-/

namespace Rowbase

variable {logs : Logs}

/-- A database of the image is fetched unless calls that load fail. -/
theorem Store.Mirrors.fetch_of_found {store image : Store} (h : store.Mirrors image)
    {faults : Storage.Faults} (hmode : store.storage.mode = .folder faults)
    (hloads : faults.load = false) {name : String} {database : Database}
    (hfound : image.databases.find? (Name.key name) = some database) :
    (store.fetch name).2 = .ok database := by
  have hkeepable := h.keepable _ _ hfound
  have hsimple := hkeepable.simple.of_key_eq hkeepable.key
  have hload : store.storage.load name = .ok (some database) := by
    unfold Storage.load
    simp only [hmode, hloads, Bool.false_eq_true, if_false, h.read_of_found hsimple hfound,
      Storage.decode_write hkeepable.wellFormed]
    rfl
  unfold Store.fetch
  cases hused : store.databases.find? (Name.key name) with
  | some used => exact congrArg Except.ok (Option.some.inj ((h.inUse _ _ hused).symm.trans hfound))
  | none => simp only [hload]

/-! ## Services -/

namespace Service

/-- The logs after an event. A service in memory forgets everything when it is restarted. -/
def log (logs : Logs) (service : Service) : Event → Logs
  | .line number text =>
    logs.afterLine (service.sessions number).current text (service.line number text).2
  | .fail _ => logs
  | .restart =>
    match service.store.storage.mode with
    | .folder _ => logs
    | _ => .empty

/-- The logs after a history. -/
def logAll (logs : Logs) (service : Service) : List Event → Logs
  | [] => logs
  | event :: rest => logAll (log logs service event) (service.handle event).1 rest

/-- The table of the given names, as it is when no call of the storage fails. -/
def table? (service : Service) (database table : String) : Option Table :=
  match ((service.fail .none).store.fetch database).2 with
  | .ok found => found.tables.find? (Name.key table)
  | .error _ => none

/-- A service in memory that another one stands for: itself, or the image of its folder. -/
inductive StandsFor (service : Service) : Service → Prop where
  | memory (memory : service.store.storage.mode = .memory) : StandsFor service service
  | folder {image : Service} (mirrors : service.Mirrors image) : StandsFor service image

/-- What a service stands for shows the logs. -/
def Keeps (logs : Logs) (service : Service) : Prop :=
  ∃ image, service.StandsFor image ∧ image.store.Shows logs

variable {service image : Service}

theorem StandsFor.mode_image (h : service.StandsFor image) :
    image.store.storage.mode = .memory := by
  cases h with
  | memory memory => exact memory
  | folder mirrors => exact mirrors.stores.memory

theorem StandsFor.sessions_image (h : service.StandsFor image) :
    image.sessions = service.sessions := by
  cases h with
  | memory memory => rfl
  | folder mirrors => exact mirrors.sessions

/-- Tables that show logs have given out as many identities as rows have been inserted. -/
theorem Mirrors.hasRoom_of_shows (h : service.Mirrors image) (hshows : image.store.Shows logs)
    (hinserts : logs.InsertsBelow (Table.idLimit - 2)) (event : Event) :
    service.hasRoom event := by
  have hcounts : image.store.CountsWithin (Table.idLimit - 3) := by
    intro database found hfound name table htable
    refine ⟨((h.stores.keepable _ _ hfound).wellFormed name table htable).1, ?_⟩
    obtain ⟨log, hlog, rfl⟩ := (hshows.database hfound).exists_log htable
    have hcount := hinserts _ _ _ hlog
    rw [← log.inserted_ledger] at hcount
    exact Nat.succ_le_succ (Nat.le_pred_of_lt hcount)
  exact h.hasRoom hcounts (by decide) event

/-- A line that is not done may leave what the service stands for as it was. Any other line has
the same outcome there. -/
theorem StandsFor.line (h : service.StandsFor image) (hshows : image.store.Shows logs)
    (hinserts : logs.InsertsBelow (Table.idLimit - 2)) (number : Nat) (text : String) :
    (service.line number text).2 ≠ .done ∧ (service.line number text).1.StandsFor image ∨
      (image.line number text).2 = (service.line number text).2 ∧
        (service.line number text).1.StandsFor (image.line number text).1 := by
  cases h with
  | memory memory =>
      have hafter : (service.line number text).1.store.storage.mode = .memory := by
        rw [Service.line, Session.storage_run memory, memory]
      exact .inr ⟨rfl, .memory hafter⟩
  | folder mirrors =>
      -- the document of a table whose next identity is beyond 64 bits could not be loaded again
      have hroom := mirrors.hasRoom_of_shows hshows hinserts (.line number text)
      obtain ⟨hlost, hkept⟩ := mirrors.line hroom
      cases hcase : (service.line number text).2.lost with
      | true =>
          refine .inl ⟨fun hdone => ?_, .folder (hlost hcase)⟩
          simp [hdone, Outcome.lost] at hcase
      | false => exact .inr ⟨(hkept hcase).1, .folder (hkept hcase).2⟩

/-- A line that is not done is not logged. -/
theorem log_line_of_not_done {number : Nat} {text : String}
    (h : (service.line number text).2 ≠ .done) : log logs service (.line number text) = logs := by
  rw [log, Logs.afterLine]
  split
  · exact if_neg h
  · rfl

namespace Keeps

theorem create {mode : Storage.Mode} (hmode : mode = .memory ∨ ∃ faults, mode = .folder faults)
    (path : String) : Keeps .empty (create { mode, folder := .create path }) := by
  have hempty {storage : Storage} : (Store.create storage).Shows .empty := fun _ _ => rfl
  rcases hmode with rfl | ⟨faults, rfl⟩
  · exact ⟨_, .memory rfl, hempty⟩
  · exact ⟨_, .folder (.create faults path), hempty⟩

theorem line (h : service.Keeps logs) (hinserts : logs.InsertsBelow (Table.idLimit - 2))
    (number : Nat) (text : String) :
    Keeps (log logs service (.line number text)) (service.line number text).1 := by
  obtain ⟨image, hstands, hshows⟩ := h
  rcases hstands.line hshows hinserts number text with ⟨hfailed, hafter⟩ | ⟨houtcome, hafter⟩
  · rw [log_line_of_not_done hfailed]
    exact ⟨image, hafter, hshows⟩
  · refine ⟨_, hafter, ?_⟩
    rw [log, ← houtcome, ← hstands.sessions_image]
    exact Session.shows_run hstands.mode_image hshows _ text

theorem fail (h : service.Keeps logs) (faults : Storage.Faults) :
    Keeps logs (service.fail faults) := by
  obtain ⟨image, hstands, hshows⟩ := h
  cases hstands with
  | memory memory =>
      have hsame : service.fail faults = service := by rw [Service.fail, memory]
      exact ⟨service, hsame.symm ▸ .memory memory, hshows⟩
  | folder mirrors => exact ⟨image, .folder (mirrors.fail faults), hshows⟩

theorem restart (h : service.Keeps logs) :
    Keeps (log logs service .restart) service.restart := by
  obtain ⟨image, hstands, hshows⟩ := h
  cases hstands with
  | memory memory =>
      rw [log, memory]
      exact ⟨_, .memory memory, fun _ _ => rfl⟩
  | folder mirrors =>
      obtain ⟨faults, hmode⟩ := mirrors.stores.folder
      rw [log, hmode]
      exact ⟨_, .folder mirrors.restart, hshows⟩

theorem handle (h : service.Keeps logs) (hinserts : logs.InsertsBelow (Table.idLimit - 2))
    (event : Event) : Keeps (log logs service event) (service.handle event).1 := by
  cases event with
  | line number text => exact h.line hinserts number text
  | fail faults => exact h.fail faults
  | restart => exact h.restart

theorem handleAll (h : service.Keeps logs) {events : List Event}
    (hinserts : ∀ before, before <+: events →
      (logAll logs service before).InsertsBelow (Table.idLimit - 2)) :
    Keeps (logAll logs service events) (service.handleAll events).1 := by
  induction events generalizing service logs with
  | nil => exact h
  | cons event rest ih =>
      have hfirst := hinserts [] (List.nil_prefix)
      exact ih (h.handle hfirst event) fun before hbefore =>
        hinserts (event :: before) ((List.prefix_cons_inj event).mpr hbefore)

theorem exists_log_of_insert (h : service.Keeps logs)
    (hinserts : logs.InsertsBelow (Table.idLimit - 2)) {number : Nat} {text name : String}
    {values : List Literal} (hline : Command.ofLine text = .ok (.change (.insert name values)))
    (hdone : (service.line number text).2 = .done) :
    ∃ database log, (service.sessions number).current = some database ∧
      logs (Name.key database) (Name.key name) = some log := by
  obtain ⟨image, hstands, hshows⟩ := h
  rcases hstands.line hshows hinserts number text with ⟨hfailed, -⟩ | ⟨houtcome, -⟩
  · exact absurd hdone hfailed
  · rw [← hstands.sessions_image]
    exact Session.exists_log_of_insert hstands.mode_image hshows hline (houtcome.trans hdone)

/-- A table that has a log is there, and it shows the log. -/
theorem table?_eq (h : service.Keeps logs) {database table : String} {log : TableLog}
    (hlog : logs (Name.key database) (Name.key table) = some log) :
    service.table? database table = some log.table := by
  obtain ⟨image, hstands, hshows⟩ := h
  have hshown := hshows (Name.key database) (Name.key table)
  rw [hlog] at hshown
  obtain ⟨found, hfound, htable⟩ := Option.bind_eq_some_iff.mp hshown
  have hfetch : ((service.fail .none).store.fetch database).2 = .ok found := by
    cases hstands with
    | memory memory =>
        rw [Service.fail, memory]
        simp only [Store.fetch, hfound]
    | folder mirrors =>
        obtain ⟨faults, hmode⟩ := mirrors.stores.folder
        have hfail : (service.fail .none).store.storage.mode = .folder .none := by
          rw [Service.fail, hmode]
          rfl
        exact (mirrors.fail .none).stores.fetch_of_found hfail rfl hfound
  rw [table?, hfetch]
  exact htable

/-- The row of a successful insertion is appended, its identity being the number of the
insertion. -/
theorem insert (h : service.Keeps logs) (hinserts : logs.InsertsBelow (Table.idLimit - 2))
    {number : Nat} {text name : String} {values : List Literal}
    (hline : Command.ofLine text = .ok (.change (.insert name values)))
    (hdone : (service.line number text).2 = .done) :
    ∃ database log found next, (service.sessions number).current = some database ∧
      logs (Name.key database) (Name.key name) = some log ∧
        service.table? database name = some found ∧
          (service.line number text).1.table? database name = some next ∧
            next.rows =
              found.rows ++ [toString (log.inserts + 1) :: values.map Literal.field] := by
  have hafter := h.line hinserts number text
  obtain ⟨database, log, hcurrent, hlog⟩ := h.exists_log_of_insert hinserts hline hdone
  -- the table after the line is not read off the change, but off the log that has grown by it
  have hnext : Service.log logs service (.line number text) (Name.key database) (Name.key name) =
      some (log.add (.insert name values)) := by
    simp [Service.log, Logs.afterLine, hline, hdone, hcurrent, Logs.after, Logs.set, Logs.entry,
      Change.target, hlog]
  refine ⟨database, log, log.table, _, hcurrent, hlog, h.table?_eq hlog,
    hafter.table?_eq hnext, ?_⟩
  rw [← log.inserted_ledger, TableLog.table, TableLog.ledger_add]
  exact List.map_append

end Keeps

/-! ## Histories -/

theorem handleAll_concat (service : Service) (before : List Event) (event : Event) :
    (service.handleAll (before ++ [event])).1 =
      ((service.handleAll before).1.handle event).1 := by
  rw [handleAll_append]
  rfl

/-- At most one row is inserted in an event. -/
theorem insertsBelow_log {limit : Nat} (h : logs.InsertsBelow limit) (service : Service)
    (event : Event) : (log logs service event).InsertsBelow (limit + 1) := by
  cases event with
  | line number text =>
      rw [log, Logs.afterLine]
      split
      · split
        · exact h.after _ _
        · exact h.succ
      · exact h.succ
  | fail faults => exact h.succ
  | restart =>
      rw [log]
      split
      · exact h.succ
      · exact fun database table log hlog => by cases hlog

theorem insertsBelow_logAll {limit : Nat} (h : logs.InsertsBelow limit) (service : Service)
    (events : List Event) :
    (logAll logs service events).InsertsBelow (limit + events.length) := by
  induction events generalizing service logs limit with
  | nil => exact h
  | cons event rest ih =>
      have hrest := ih (insertsBelow_log h service event) (service.handle event).1
      rwa [Nat.add_assoc, Nat.add_comm 1] at hrest

/-- The identities in the tables of a service number the successful insertions, throughout a
history that it starts with. -/
structure NumbersInsertions (start : Service) (events : List Event) : Prop where
  /-- At every point, a table that was created and not dropped since has exactly the rows of
  those successful insertions that are left, in the ascending order of their identities. -/
  rows : ∀ before, before <+: events → ∀ database table log,
    logAll .empty start before (Name.key database) (Name.key table) = some log →
      ∃ found, (start.handleAll before).1.table? database table = some found ∧
        found.rows = log.ledger.entries.map Ledger.Entry.row ∧ log.ledger.Ordered ∧
          log.ledger.inserted = log.inserts
  /-- A successful insertion appends a row, whose identity tells the how-manieth it is. -/
  insertion : ∀ before number text name values, before ++ [.line number text] <+: events →
    Command.ofLine text = .ok (.change (.insert name values)) →
      ((start.handleAll before).1.line number text).2 = .done →
        ∃ database log found next,
          ((start.handleAll before).1.sessions number).current = some database ∧
          logAll .empty start before (Name.key database) (Name.key name) = some log ∧
          (start.handleAll before).1.table? database name = some found ∧
          (start.handleAll (before ++ [.line number text])).1.table? database name =
            some next ∧
          next.rows = found.rows ++ [toString (log.inserts + 1) :: values.map Literal.field]

/-- Whatever is run, fails and is restarted, in memory or over a folder that is empty at first:
the identities in a table number the successful insertions into it. -/
theorem numbersInsertions {mode : Storage.Mode}
    (hmode : mode = .memory ∨ ∃ faults, mode = .folder faults) (path : String)
    (events : List Event)
    (hinserts : ∀ before, before <+: events →
      (logAll .empty (create { mode, folder := .create path }) before).InsertsBelow
        (Table.idLimit - 2)) :
    (create { mode, folder := .create path }).NumbersInsertions events := by
  have hkeeps {before : List Event} (hbefore : before <+: events) :
      Keeps (logAll .empty (create { mode, folder := .create path }) before)
        ((create { mode, folder := .create path }).handleAll before).1 :=
    (Keeps.create hmode path).handleAll fun earlier hearlier =>
      hinserts earlier (hearlier.trans hbefore)
  constructor
  · intro before hbefore database table log hlog
    exact ⟨log.table, (hkeeps hbefore).table?_eq hlog, rfl, log.ordered_ledger,
      log.inserted_ledger⟩
  · intro before number text name values hbefore hline hdone
    have hearlier := (List.prefix_append before _).trans hbefore
    rw [handleAll_concat]
    exact (hkeeps hearlier).insert (hinserts before hearlier) hline hdone

/-- A history in which an insertion is undone, one is refused and the first row is deleted. -/
def restocked : List Event :=
  [.line 0 "CREATE DATABASE Shop;", .line 0 "USE shop;", .line 0 "CREATE TABLE Items (name);",
    .line 0 "INSERT INTO items VALUES ('pen');",
    .fail { save := true, load := false, remove := false },
    .line 0 "INSERT INTO items VALUES ('lost');", .restart, .fail .none, .line 1 "USE SHOP;",
    .line 1 "INSERT INTO items VALUES ('ink', 2);", .line 1 "INSERT INTO ITEMS VALUES ('cup');",
    .line 1 "DELETE FROM items WHERE id == 1;", .line 1 "INSERT INTO items VALUES ('ink');"]

theorem numbersInsertions_restocked :
    (∀ before, before <+: restocked →
      (logAll .empty (create { mode := .folder .none, folder := .create "data" })
        before).InsertsBelow (Table.idLimit - 2)) ∧
      (create { mode := .folder .none, folder := .create "data" }).NumbersInsertions
        restocked := by
  have hinserts : ∀ before, before <+: restocked →
      (logAll .empty (create { mode := .folder .none, folder := .create "data" })
        before).InsertsBelow (Table.idLimit - 2) := by
    intro before hbefore
    have hempty : Logs.InsertsBelow .empty 1 := fun _ _ log hlog => by cases hlog
    have hlength : 1 + restocked.length ≤ Table.idLimit - 2 := by decide
    refine (insertsBelow_logAll hempty _ before).mono ?_
    exact (Nat.add_le_add_left hbefore.length_le 1).trans hlength
  exact ⟨hinserts, numbersInsertions (.inr ⟨.none, rfl⟩) "data" restocked hinserts⟩

end Service

end Rowbase
