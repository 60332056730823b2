import Rowbase.Proofs.OrderlyStores

/-!
# Separate databases

Commands on tables read and write the current database alone, in use and in its file. Sessions
with different current databases therefore do not see each other: each gets the responses that it
would get if the lines of the others were left out, and leaves its database as it would then.
-/

namespace Rowbase

/-- A line that chooses, makes or drops no database: a command on tables, or no command. -/
def Command.onTables (line : String) : Bool :=
  match Command.ofLine line with
  | .ok (.change _) | .ok (.query _) | .error _ => true
  | .ok _ => false

/-! ## Stores that are the same on one database -/

/-- Stores that differ at most on other databases than the one of the given name. -/
structure Store.SameOn (name : String) (left right : Store) : Prop where
  inUse : left.databases.find? (Name.key name) = right.databases.find? (Name.key name)
  stored : left.storage.folder.entries.find? (Storage.fileName name) =
    right.storage.folder.entries.find? (Storage.fileName name)
  mode : left.storage.mode = right.storage.mode
  path : left.storage.folder.path = right.storage.folder.path

namespace Store.SameOn

variable {good : Database → Prop} {left right store : Store} {name other : String}

theorem refl (name : String) (store : Store) : store.SameOn name store :=
  ⟨rfl, rfl, rfl, rfl⟩

theorem trans (h : left.SameOn name store) (h' : store.SameOn name right) :
    left.SameOn name right :=
  ⟨h.inUse.trans h'.inUse, h.stored.trans h'.stored, h.mode.trans h'.mode, h.path.trans h'.path⟩

theorem put (h : left.SameOn name right) (database : Database) :
    (left.put other database).SameOn name (right.put other database) := by
  refine ⟨?_, h.stored, h.mode, h.path⟩
  simp only [Store.put, NameMap.find?_insert, h.inUse]

theorem read_eq (h : left.SameOn name right) (hsimple : Name.Simple name) :
    left.storage.folder.read (Storage.fileName name) =
      right.storage.folder.read (Storage.fileName name) := by
  by_cases hlong : Folder.nameLimit < (Storage.fileName name).utf8ByteSize
  · have hlocate (folder : Folder) :
        folder.locate (Storage.fileName name) = .error .refused := by
      rw [Storage.locate_fileName hsimple, if_pos hlong]
    rw [Folder.read_of_locate_error (hlocate _), Folder.read_of_locate_error (hlocate _)]
  · have hlocate (folder : Folder) :
        folder.locate (Storage.fileName name) = .ok (Storage.fileName name) := by
      rw [Storage.locate_fileName hsimple, if_neg hlong]
    rw [Folder.read_of_locate (hlocate _), Folder.read_of_locate (hlocate _), h.stored]

theorem load_eq (h : left.SameOn name right) (hsimple : Name.Simple name) :
    left.storage.load name = right.storage.load name := by
  rw [Storage.load, Storage.load, h.mode, h.path, h.read_eq hsimple]

/-! ### The same command on both sides -/

theorem fetch (h : left.SameOn name right) (hsimple : Name.Simple name) :
    (left.fetch name).2 = (right.fetch name).2 ∧
      (left.fetch name).1.SameOn name (right.fetch name).1 := by
  unfold Store.fetch
  rw [h.inUse, h.load_eq hsimple]
  split
  · exact ⟨rfl, h⟩
  · split
    · exact ⟨rfl, h⟩
    · exact ⟨rfl, h⟩
    next database _ => exact ⟨rfl, h.put database⟩

theorem save (h : left.SameOn name right) (hleft : left.storage.folder.Flat)
    (hright : right.storage.folder.Flat) {database : Database}
    (hsimple : Name.Simple database.name) :
    (left.storage.save database).2 = (right.storage.save database).2 ∧
      SameOn name { left with storage := (left.storage.save database).1 }
        { right with storage := (right.storage.save database).1 } := by
  by_cases hfolder : ∃ faults, right.storage.mode = .folder faults
  · obtain ⟨faults, hmode⟩ := hfolder
    rw [Storage.save_of_simple (h.mode.trans hmode) hleft hsimple,
      Storage.save_of_simple hmode hright hsimple]
    split
    · exact ⟨rfl, h⟩
    · split
      · exact ⟨rfl, h⟩
      · refine ⟨rfl, h.inUse, ?_, h.mode, h.path⟩
        simp only [Storage.find?_savedFolder, h.stored]
  · have hright : right.storage.Transient := not_exists.mp hfolder
    have hleft : left.storage.Transient := fun faults hmode => hright faults (h.mode ▸ hmode)
    have hstops : left.storage.stops = right.storage.stops := by
      rw [Storage.stops, Storage.stops, h.mode]
    rw [hleft.save, hright.save, hstops]
    exact ⟨rfl, h⟩

theorem replace (h : left.SameOn name right) (hleft : left.storage.folder.Flat)
    (hright : right.storage.folder.Flat) {made : Except Error Database}
    (hmade : ∀ changed, made = .ok changed → Name.Simple changed.name) :
    (left.replace name made).2 = (right.replace name made).2 ∧
      (left.replace name made).1.SameOn name (right.replace name made).1 := by
  cases made with
  | error error => exact ⟨rfl, h⟩
  | ok changed =>
      obtain ⟨hsaving, hsaved⟩ := h.save hleft hright (hmade changed rfl)
      rcases hl : left.storage.save changed with ⟨leftStorage, saving⟩
      rcases hr : right.storage.save changed with ⟨rightStorage, _⟩
      rw [hl, hr] at hsaving hsaved
      cases hsaving
      simp only [Store.replace, hl, hr]
      cases saving with
      | saved => exact ⟨rfl, hsaved.put changed⟩
      | failed fault => exact ⟨rfl, hsaved⟩
      | stopped => exact ⟨rfl, hsaved.put changed⟩

/-- A change to the database on which two stores are the same has the same outcome in both, and
they are the same on it afterwards. -/
theorem change (h : left.SameOn name right) (hleft : left.Orderly good)
    (hright : right.Orderly good) (hsimple : Name.Simple name) (change : Change) :
    (left.change name change).2 = (right.change name change).2 ∧
      (left.change name change).1.SameOn name (right.change name change).1 := by
  obtain ⟨hfetched, hloaded⟩ := h.fetch hsimple
  rw [change_eq, change_eq, ← hfetched]
  refine hloaded.replace (hleft.fetch hsimple).1.stored.flat (hright.fetch hsimple).1.stored.flat
    fun changed hmade => ?_
  obtain ⟨database, hdatabase, hchange⟩ := bind_eq_ok_iff.mp hmade
  have hname : changed.name = database.name := (Database.step_of_change hchange).name
  rw [hname]
  exact ((hleft.fetch hsimple).2 database hdatabase).2.simple

theorem query (h : left.SameOn name right) (hsimple : Name.Simple name) (query : Query) :
    (left.query name query).2 = (right.query name query).2 ∧
      (left.query name query).1.SameOn name (right.query name query).1 := by
  obtain ⟨hfetched, hloaded⟩ := h.fetch hsimple
  rw [query_eq, query_eq, hfetched]
  exact ⟨rfl, hloaded⟩

/-! ### Commands on other databases -/

theorem put_other (hne : Name.key other ≠ Name.key name) (store : Store) (database : Database) :
    (store.put other database).SameOn name store := by
  refine ⟨?_, rfl, rfl, rfl⟩
  simp only [Store.put, NameMap.find?_insert, if_neg hne]

theorem fetch_other (hne : Name.key other ≠ Name.key name) (store : Store) :
    (store.fetch other).1.SameOn name store := by
  unfold Store.fetch
  split
  · exact .refl name store
  · split
    · exact .refl name store
    · exact .refl name store
    · exact put_other hne store _

/-- A save of another database does not touch the file. -/
theorem save_other (h : store.storage.Orderly good) {database : Database}
    (hsimple : Name.Simple database.name) (hgood : good database)
    (hne : Name.key database.name ≠ Name.key name) :
    SameOn name { store with storage := (store.storage.save database).1 } store := by
  rcases h.save_cases hsimple hgood with ⟨fault, hsave⟩ | ⟨-, ⟨-, hsave⟩ | ⟨-, hsave⟩⟩
  · rw [hsave]
    exact .refl name store
  · rw [hsave]
    refine ⟨rfl, ?_, rfl, rfl⟩
    have hfile : Storage.fileName database.name ≠ Storage.fileName name :=
      fun heq => hne (Storage.key_eq_of_fileName_eq heq)
    simp only [Storage.find?_savedFolder, if_neg hfile,
      if_neg (Storage.draftName_ne_fileName database.name name)]
  · rw [hsave]
    exact .refl name store

theorem replace_other (h : store.Orderly good) {made : Except Error Database}
    (hmade : ∀ changed, made = .ok changed →
      Name.key other = Name.key changed.name ∧ Name.Simple changed.name ∧ good changed)
    (hne : Name.key other ≠ Name.key name) : (store.replace other made).1.SameOn name store := by
  cases made with
  | error error => exact .refl name store
  | ok changed =>
      obtain ⟨hkey, hsimple, hgood⟩ := hmade changed rfl
      have hsaved := save_other h.stored hsimple hgood (hkey ▸ hne)
      rcases hsave : store.storage.save changed with ⟨storage, saving⟩
      rw [hsave] at hsaved
      simp only [Store.replace, hsave]
      cases saving with
      | saved => exact (put_other hne _ changed).trans hsaved
      | failed fault => exact hsaved
      | stopped => exact (put_other hne _ changed).trans hsaved

theorem change_other (h : store.Orderly good) (hlasting : Database.Lasting good)
    (hsimple : Name.Simple other) (hne : Name.key other ≠ Name.key name) {change : Change}
    (hnames : ∀ name ∈ change.mentioned, Token.Named name) :
    (store.change other change).1.SameOn name store := by
  rw [change_eq]
  have hreplaced := replace_other (h.fetch hsimple).1
    (fun _ => h.changed hlasting hsimple hnames) hne
  exact hreplaced.trans (fetch_other hne store)

theorem query_other (hne : Name.key other ≠ Name.key name) (store : Store) (query : Query) :
    (store.query other query).1.SameOn name store := by
  rw [query_eq]
  exact fetch_other hne store

end Store.SameOn

/-! ## Lines of sessions -/

namespace Session

variable {good : Database → Prop} {session : Session} {left right store : Store}
variable {name line : String}

theorem run_of_ofLine {command : Command} (hline : Command.ofLine line = .ok command)
    (session : Session) (store : Store) :
    session.run store line = session.execute store command := by
  rw [run, hline]

theorem run_onTables (hline : Command.onTables line) (store : Store) :
    (session.run store line).1 = session := by
  unfold Command.onTables at hline
  unfold run
  split at hline
  next hcommand => rw [hcommand]; rfl
  next hcommand => rw [hcommand]; rfl
  next hcommand => rw [hcommand]
  · simp at hline

/-- A line about tables has the same outcome in stores that are the same on the current database,
and leaves them so. -/
theorem run_sameOn (hline : Command.onTables line) (hcurrent : session.current = some name)
    (hsimple : Name.Simple name) (h : left.SameOn name right) (hleft : left.Orderly good)
    (hright : right.Orderly good) :
    (session.run left line).2.2 = (session.run right line).2.2 ∧
      (session.run left line).2.1.SameOn name (session.run right line).2.1 := by
  unfold Command.onTables at hline
  unfold run
  split at hline
  next change hcommand =>
    rw [hcommand]
    simp only [execute, withCurrent, hcurrent]
    exact h.change hleft hright hsimple change
  next query hcommand =>
    rw [hcommand]
    simp only [execute, withCurrent, hcurrent]
    exact h.query hsimple query
  next error hcommand =>
    rw [hcommand]
    exact ⟨rfl, h⟩
  · simp at hline

/-- A line about tables leaves every database but the current one as it is. -/
theorem run_other (hline : Command.onTables line) (h : store.Orderly good)
    (hlasting : Database.Lasting good) (hsimple : session.CurrentSimple)
    (hne : ∀ other, session.current = some other → Name.key other ≠ Name.key name) :
    (session.run store line).2.1.SameOn name store := by
  unfold Command.onTables at hline
  unfold run
  split at hline
  next change hcommand =>
    rw [hcommand]
    cases hcurrent : session.current with
    | none =>
        simp only [execute, withCurrent, hcurrent]
        exact .refl name store
    | some other =>
        simp only [execute, withCurrent, hcurrent]
        exact Store.SameOn.change_other h hlasting (hsimple other hcurrent) (hne other hcurrent)
          fun _ => Command.named_of_ofLine hcommand
  next query hcommand =>
    rw [hcommand]
    cases hcurrent : session.current with
    | none =>
        simp only [execute, withCurrent, hcurrent]
        exact .refl name store
    | some other =>
        simp only [execute, withCurrent, hcurrent]
        exact Store.SameOn.query_other (hne other hcurrent) store query
  next hcommand =>
    rw [hcommand]
    exact .refl name store
  · simp at hline

/-- A database that is made in a storage that keeps none can be chosen. -/
theorem run_create_use (h : store.storage.Transient) (hstops : store.storage.stops = false)
    (hfree : store.databases.contains (Name.key name) = false) {making choosing : String}
    (hmaking : Command.ofLine making = .ok (.createDatabase name))
    (hchoosing : Command.ofLine choosing = .ok (.use name)) :
    session.run store making = (session, store.put name (Database.create name), .done) ∧
      session.run (store.put name (Database.create name)) choosing =
        ({ current := some (Name.key name) }, store.put name (Database.create name), .done) := by
  have hput : (store.put name (Database.create name)).storage.Transient := h
  have hfound : (store.put name (Database.create name)).databases.find? (Name.key name) =
      some (Database.create name) := by
    simp [Store.put]
  constructor
  · simp [run, hmaking, execute, Store.createDatabase_transient h, hfree, hstops]
  · simp [run, hchoosing, execute, Store.fetch_transient hput, hfound]

end Session

/-! ## Interleaved lines -/

namespace Service

/-- Whether an event is a line in the session of the given number. -/
def Event.isIn (number : Nat) : Event → Bool
  | .line other _ => other = number
  | .fail _ | .restart => false

/-- The responses to the lines of one session in a history. -/
def responsesTo (service : Service) (number : Nat) : List Event → List String
  | [] => []
  | event :: rest =>
    let (next, outcome) := service.handle event
    (if event.isIn number then outcome.toList.map Response.ofOutcome else []) ++
      next.responsesTo number rest

/-- A line about tables, in the session of the given number or in one whose current database has
another name than the given one. -/
inductive Spares (service : Service) (number : Nat) (name : String) : Event → Prop where
  | own {text : String} (onTables : Command.onTables text) :
      Spares service number name (.line number text)
  | other {other : Nat} {text : String} (onTables : Command.onTables text) (ne : other ≠ number)
      (apart : ∀ otherName, (service.sessions other).current = some otherName →
        Name.key otherName ≠ Name.key name) :
      Spares service number name (.line other text)

variable {good : Database → Prop} {service left right : Service} {number : Nat}
variable {name text : String}

/-- Lines about tables leave all sessions as they are. -/
theorem sessions_line (hline : Command.onTables text) (service : Service) (number : Nat) :
    (service.line number text).1.sessions = service.sessions := by
  funext other
  simp only [Service.line]
  split
  next heq => rw [heq, Session.run_onTables hline]
  · rfl

theorem Spares.of_sessions_eq {event : Event} (h : left.Spares number name event)
    (hsessions : right.sessions = left.sessions) : right.Spares number name event := by
  cases h with
  | own onTables => exact .own onTables
  | other onTables ne apart => exact .other onTables ne (hsessions ▸ apart)

/-- A line in another session leaves the database as it is. -/
theorem line_other (h : service.Orderly good) (hlasting : Database.Lasting good)
    (hline : Command.onTables text)
    (hapart : ∀ other, (service.sessions number).current = some other →
      Name.key other ≠ Name.key name) :
    (service.line number text).1.store.SameOn name service.store :=
  Session.run_other hline h.store hlasting (h.simple number) hapart

/-- Lines that spare the current database of a session can be left out: the others have the same
responses, and leave that database as it is with all lines. -/
theorem sameOn_handleAll (hlasting : Database.Lasting good) (hleft : left.Orderly good)
    (hright : right.Orderly good) (hcurrent : (left.sessions number).current = some name)
    (hsessions : right.sessions = left.sessions) (h : left.store.SameOn name right.store)
    {events : List Event} (hevents : ∀ event ∈ events, left.Spares number name event) :
    left.responsesTo number events =
        right.responsesTo number (events.filter (Event.isIn number)) ∧
      (left.handleAll events).1.store.SameOn name
        (right.handleAll (events.filter (Event.isIn number))).1.store := by
  induction events generalizing left right with
  | nil => exact ⟨rfl, h⟩
  | cons event rest ih =>
      obtain ⟨hfirst, hrest⟩ := List.forall_mem_cons.mp hevents
      cases hfirst with
      | @own text onTables =>
          -- both sides run the line
          have hafter := sessions_line onTables left number
          have hafter' := sessions_line onTables right number
          have hnumber : right.sessions number = left.sessions number := congrFun hsessions number
          obtain ⟨houtcome, hsame⟩ := Session.run_sameOn onTables hcurrent
            (hleft.simple number name hcurrent) h hleft.store hright.store
          rw [List.filter_cons_of_pos (by simp [Event.isIn])]
          obtain ⟨hresponses, hstores⟩ := ih (hleft.line hlasting number text)
            (hright.line hlasting number text) (hafter ▸ hcurrent)
            (hafter'.trans (hsessions.trans hafter.symm))
            (by simpa only [Service.line, hnumber] using hsame)
            fun event hevent => (hrest event hevent).of_sessions_eq hafter
          refine ⟨?_, hstores⟩
          simp only [responsesTo, handle, hresponses]
          simp only [Service.line, hnumber, houtcome]
      | @other other text onTables ne apart =>
          -- only the left side runs the line
          have hafter := sessions_line onTables left other
          have hother := line_other hleft hlasting onTables apart
          have hnot : Event.isIn number (.line other text) = false := by simp [Event.isIn, ne]
          rw [List.filter_cons_of_neg (by simp [hnot])]
          obtain ⟨hresponses, hstores⟩ := ih (hleft.line hlasting other text) hright
            (hafter ▸ hcurrent) (hsessions.trans hafter.symm) (hother.trans h)
            fun event hevent => (hrest event hevent).of_sessions_eq hafter
          refine ⟨?_, hstores⟩
          simp only [responsesTo, handle, hnot]
          simpa using hresponses

theorem lasting_true : Database.Lasting fun _ => True :=
  ⟨fun _ => trivial, fun _ _ _ => trivial⟩

/-- What a session sees and leaves of its current database when lines in other sessions are run
in between is what it sees and leaves when they are not. -/
structure Unaffected (service : Service) (number : Nat) (name : String) (events : List Event) :
    Prop where
  responses : service.responsesTo number events =
    service.responsesTo number (events.filter (Event.isIn number))
  inUse : (service.handleAll events).1.store.databases.find? (Name.key name) =
    (service.handleAll (events.filter (Event.isIn number))).1.store.databases.find?
      (Name.key name)
  stored : (service.handleAll events).1.store.storage.folder.read (Storage.fileName name) =
    (service.handleAll (events.filter (Event.isIn number))).1.store.storage.folder.read
      (Storage.fileName name)

theorem unaffected_of_spares (h : service.Orderly good) (hlasting : Database.Lasting good)
    (hcurrent : (service.sessions number).current = some name) {events : List Event}
    (hevents : ∀ event ∈ events, service.Spares number name event) :
    service.Unaffected number name events := by
  obtain ⟨hresponses, hstores⟩ :=
    sameOn_handleAll hlasting h h hcurrent rfl (.refl name service.store) hevents
  exact ⟨hresponses, hstores.inUse, hstores.read_eq (h.simple number name hcurrent)⟩

/-- In a service that started with an empty folder, two sessions with different current databases
do not see each other, however their lines about tables are interleaved. -/
theorem unaffected_of_different (mode : Storage.Mode) (path : String) (history : List Event)
    {first second : Nat} {firstName secondName : String} {events : List Event} :
    let service := ((create { mode, folder := .create path }).handleAll history).1
    (service.sessions first).current = some firstName →
    (service.sessions second).current = some secondName →
    Name.key firstName ≠ Name.key secondName →
    (∀ event ∈ events, ∃ text, Command.onTables text ∧
      (event = .line first text ∨ event = .line second text)) →
    service.Unaffected first firstName events ∧ service.Unaffected second secondName events := by
  intro service hfirst hsecond hne hevents
  have horderly : service.Orderly fun _ => True :=
    orderly_of_history lasting_true mode path history
  have hnumbers : first ≠ second := by
    rintro rfl
    rw [hfirst] at hsecond
    exact hne (congrArg Name.key (Option.some.inj hsecond))
  constructor
  · apply unaffected_of_spares horderly lasting_true hfirst
    intro event hevent
    obtain ⟨text, hline, rfl | rfl⟩ := hevents event hevent
    · exact .own hline
    · refine .other hline hnumbers.symm fun other hother => ?_
      rw [hsecond] at hother
      exact Option.some.inj hother ▸ hne.symm
  · apply unaffected_of_spares horderly lasting_true hsecond
    intro event hevent
    obtain ⟨text, hline, rfl | rfl⟩ := hevents event hevent
    · refine .other hline hnumbers fun other hother => ?_
      rw [hfirst] at hother
      exact Option.some.inj hother ▸ hne
    · exact .own hline

/-- Two sessions choose databases of their own. -/
def twoChoices : List Event :=
  [.line 0 "CREATE DATABASE shop;", .line 0 "USE shop;", .line 1 "CREATE DATABASE bank;",
    .line 1 "USE bank;"]

/-- Two sessions that have chosen databases of their own. -/
def twoSessions : Service :=
  ((create { mode := .memory, folder := .create "" }).handleAll twoChoices).1

/-- Lines of both sessions about tables of the same name, one of them not a command. -/
def interleaved : List Event :=
  [.line 0 "CREATE TABLE t (v);", .line 1 "SELECT * FROM t;", .line 0 "INSERT INTO t VALUES ('x');",
    .line 1 "DROP TABLE", .line 0 "SELECT * FROM t;"]

/-- The store when the first of them has made its database. -/
def shopStore : Store :=
  Store.inMemory.put "shop" (Database.create "shop")

theorem key_shop_ne_key_bank : Name.key "shop" ≠ Name.key "bank" := by
  intro heq
  have hletters : (Name.key "shop").toList = (Name.key "bank").toList := congrArg _ heq
  simp [Name.key] at hletters

theorem run_shop :
    Session.create.run Store.inMemory "CREATE DATABASE shop;" = (.create, shopStore, .done) ∧
      Session.create.run shopStore "USE shop;" =
        ({ current := some (Name.key "shop") }, shopStore, .done) := by
  have htransient : Store.inMemory.storage.Transient := fun _ hmode => by cases hmode
  have hmaking : Command.ofLine "CREATE DATABASE shop;" = .ok (.createDatabase "shop") := by cbv
  have hchoosing : Command.ofLine "USE shop;" = .ok (.use "shop") := by cbv
  exact Session.run_create_use htransient rfl rfl hmaking hchoosing

theorem run_bank :
    Session.create.run shopStore "CREATE DATABASE bank;" =
        (.create, shopStore.put "bank" (Database.create "bank"), .done) ∧
      Session.create.run (shopStore.put "bank" (Database.create "bank")) "USE bank;" =
        ({ current := some (Name.key "bank") }, shopStore.put "bank" (Database.create "bank"),
          .done) := by
  have htransient : shopStore.storage.Transient := fun _ hmode => by cases hmode
  have hfree : shopStore.databases.contains (Name.key "bank") = false := by
    simp [shopStore, Store.put, NameMap.contains, Store.inMemory, Store.create,
      key_shop_ne_key_bank]
  have hmaking : Command.ofLine "CREATE DATABASE bank;" = .ok (.createDatabase "bank") := by cbv
  have hchoosing : Command.ofLine "USE bank;" = .ok (.use "bank") := by cbv
  exact Session.run_create_use htransient rfl hfree hmaking hchoosing

theorem current_twoSessions :
    (twoSessions.sessions 0).current = some (Name.key "shop") ∧
      (twoSessions.sessions 1).current = some (Name.key "bank") := by
  obtain ⟨hshop, hchosen⟩ := run_shop
  obtain ⟨hbank, hchosen'⟩ := run_bank
  rw [Store.inMemory] at hshop
  simp [twoSessions, twoChoices, handleAll, handle, line, create, hshop, hchosen, hbank, hchosen']

theorem onTables_of_mem_interleaved :
    ∀ event ∈ interleaved, ∃ text, Command.onTables text ∧
      (event = .line 0 text ∨ event = .line 1 text) := by
  intro event hevent
  simp only [interleaved, List.mem_cons, List.not_mem_nil, or_false] at hevent
  have hselect : Command.onTables "SELECT * FROM t;" := by cbv
  rcases hevent with rfl | rfl | rfl | rfl | rfl
  · exact ⟨_, by cbv, .inl rfl⟩
  · exact ⟨_, hselect, .inr rfl⟩
  · exact ⟨_, by cbv, .inl rfl⟩
  · exact ⟨_, by cbv, .inr rfl⟩
  · exact ⟨_, hselect, .inl rfl⟩

theorem unaffected_of_interleaved :
    (twoSessions.sessions 0).current = some (Name.key "shop") ∧
      (twoSessions.sessions 1).current = some (Name.key "bank") ∧
      Name.key (Name.key "shop") ≠ Name.key (Name.key "bank") ∧
      (∀ event ∈ interleaved, ∃ text, Command.onTables text ∧
        (event = .line 0 text ∨ event = .line 1 text)) ∧
      twoSessions.Unaffected 0 (Name.key "shop") interleaved ∧
      twoSessions.Unaffected 1 (Name.key "bank") interleaved := by
  obtain ⟨hfirst, hsecond⟩ := current_twoSessions
  have hne : Name.key (Name.key "shop") ≠ Name.key (Name.key "bank") := by
    rw [Name.key_key, Name.key_key]
    exact key_shop_ne_key_bank
  exact ⟨hfirst, hsecond, hne, onTables_of_mem_interleaved,
    unaffected_of_different .memory "" twoChoices hfirst hsecond hne onTables_of_mem_interleaved⟩

end Service

end Rowbase
