import Rowbase.Proofs.Mirrors
import Rowbase.Response
import Rowbase.Service

/-!
# Durable services refine services in memory

Leave out of a history of a service over a folder every line that failed for the storage, and
let restarts only forget the sessions: a service in memory then gives the same outcomes, and so
the same responses.
-/

namespace Rowbase

namespace Session

variable {session : Session} {store image : Store}

/-- A command has failed for the storage and left the session as it was, or it has done the
same to the session and the stores. -/
structure Agrees (session : Session) (result : Session × Store × Outcome) (image : Store)
    (ideal : Session × Store × Outcome) : Prop where
  stores : Store.Agrees result.2 image ideal.2
  lost : result.2.2.lost = true → result.1 = session
  kept : result.2.2.lost = false → result.1 = ideal.1

theorem agrees_of_same (next : Session) {result ideal : Store × Outcome}
    (h : Store.Agrees result image ideal) (hnext : next = session) :
    session.Agrees (next, result) image (next, ideal) :=
  ⟨h, fun _ => hnext, fun _ => rfl⟩

theorem agrees_use (h : store.Mirrors image) {name : String} (hsimple : Name.Simple name) :
    session.Agrees (session.execute store (.use name)) image
      (session.execute image (.use name)) := by
  rw [execute, execute, Store.fetch_transient h.transient]
  rcases h.fetch hsimple with ⟨fault, hfetch⟩ | ⟨loaded, hloaded, hfetch⟩
  · rw [hfetch]
    exact ⟨h.agrees_lost fault _, fun _ => rfl, fun hkept => by
      simp [Outcome.lost, Error.isStorage] at hkept⟩
  · rw [hfetch]
    cases image.databases.find? (Name.key name) with
    | none => exact agrees_of_same session (hloaded.agrees_failed _) rfl
    | some database =>
        exact ⟨Store.Mirrors.agrees_of_eq rfl rfl hloaded, fun hlost => by
          simp [Outcome.lost] at hlost, fun _ => rfl⟩

/-- The session that chose a database forgets it when the database is gone. -/
theorem execute_dropDatabase (name : String) :
    session.execute store (.dropDatabase name) =
      (if (store.dropDatabase name).2 = .done ∧ session.current = some (Name.key name) then create
        else session, store.dropDatabase name) := by
  rw [execute]
  split
  next after hdrop => simp [hdrop]
  next after outcome hne hdrop =>
    have houtcome : outcome ≠ .done := fun h => hne (by rw [h])
    simp [hdrop, houtcome]

theorem agrees_dropDatabase (h : store.Mirrors image) {name : String}
    (hsimple : Name.Simple name) :
    session.Agrees (session.execute store (.dropDatabase name)) image
      (session.execute image (.dropDatabase name)) := by
  have hagrees := h.dropDatabase hsimple
  rw [execute_dropDatabase, execute_dropDatabase]
  refine ⟨hagrees, ?_, ?_⟩
  · intro hlost
    apply if_neg
    rintro ⟨hdone, -⟩
    rw [hdone] at hlost
    simp [Outcome.lost] at hlost
  · intro hkept
    simp only [(hagrees.kept hkept).1]

/-- Commands that act on the current database leave the session as it is. -/
theorem agrees_withCurrent (action : Store → String → Store × Outcome)
    (h : store.Mirrors image)
    (haction : ∀ name, session.current = some name →
      Store.Agrees (action store name) image (action image name)) :
    session.Agrees (session, session.withCurrent store (action store)) image
      (session, session.withCurrent image (action image)) := by
  unfold withCurrent
  split
  next name hcurrent => exact agrees_of_same session (haction name hcurrent) rfl
  · exact agrees_of_same session (h.agrees_failed _) rfl

/-- Whether a command leaves all identities within 64 bits. -/
def hasRoom (session : Session) (store : Store) : Command → Prop
  | .change change => ∀ name database, session.current = some name →
    (store.fetch name).2 = .ok database → database.hasRoom change
  | _ => True

theorem agrees_execute (h : store.Mirrors image) {command : Command} (hsound : command.Sound)
    (hcurrent : ∀ name, session.current = some name → Name.Simple name)
    (hroom : session.hasRoom store command) :
    session.Agrees (session.execute store command) image (session.execute image command) := by
  cases command with
  | use name => exact agrees_use h (Name.simple_of_named hsound)
  | createDatabase name =>
      exact agrees_of_same session (h.createDatabase (Name.simple_of_named hsound)) rfl
  | dropDatabase name => exact agrees_dropDatabase h (Name.simple_of_named hsound)
  | change change =>
      exact agrees_withCurrent (fun store name => store.change name change) h
        fun name hname => h.change (hcurrent name hname) (hroom name · hname)
  | query query =>
      exact agrees_withCurrent (fun store name => store.query name query) h
        fun name hname => h.query (hcurrent name hname) query

/-- The database that a session has chosen has a simple name. -/
def CurrentSimple (session : Session) : Prop :=
  ∀ name, session.current = some name → Name.Simple name

theorem currentSimple_create : create.CurrentSimple := by
  intro name hname
  simp [create] at hname

theorem CurrentSimple.execute (h : session.CurrentSimple) {command : Command}
    (hsound : command.Sound) : (session.execute store command).1.CurrentSimple := by
  cases command with
  | use name =>
      rw [Session.execute]
      split
      · intro other hother
        cases hother
        exact (Name.simple_of_named hsound).of_key_eq (Name.key_key name)
      · exact h
  | dropDatabase name =>
      rw [execute_dropDatabase]
      split
      · exact currentSimple_create
      · exact h
  | _ => exact h

theorem agrees_run (h : store.Mirrors image) (hcurrent : session.CurrentSimple) {line : String}
    (hroom : ∀ command, Command.ofLine line = .ok command → session.hasRoom store command) :
    session.Agrees (session.run store line) image (session.run image line) := by
  unfold run
  split
  next command hcommand =>
    exact agrees_execute h (Command.sound_of_ofLine hcommand) hcurrent (hroom command hcommand)
  · exact agrees_of_same session (h.agrees_failed _) rfl

theorem CurrentSimple.run (h : session.CurrentSimple) (line : String) :
    (session.run store line).1.CurrentSimple := by
  unfold Session.run
  split
  next command hcommand => exact h.execute (Command.sound_of_ofLine hcommand)
  · exact h

end Session

/-! ## Histories -/

namespace Service

theorem handleAll_append (service : Service) (before after : List Event) :
    service.handleAll (before ++ after) =
      (((service.handleAll before).1.handleAll after).1,
        (service.handleAll before).2 ++ ((service.handleAll before).1.handleAll after).2) := by
  induction before generalizing service with
  | nil => rfl
  | cons event rest ih => simp only [List.cons_append, handleAll, ih]

theorem length_handleAll (service : Service) (events : List Event) :
    (service.handleAll events).2.length = events.length := by
  induction events generalizing service with
  | nil => rfl
  | cons event rest ih => simp only [handleAll, List.length_cons, ih]

/-- The service in memory on which a restart only forgets the sessions, after one event. -/
def handleInMemory (service : Service) : Event → Service × Option Outcome
  | .restart => ({ service with sessions := fun _ => .create }, none)
  | event => service.handle event

/-- What a history makes of a service in memory, and the outcomes of its lines. -/
def handleAllInMemory (service : Service) : List Event → Service × List (Option Outcome)
  | [] => (service, [])
  | event :: rest =>
    let (service, outcome) := service.handleInMemory event
    let (service, outcomes) := service.handleAllInMemory rest
    (service, outcome :: outcomes)

/-- The events of a history that did not fail for the storage, with their outcomes. -/
def kept (events : List Event) (outcomes : List (Option Outcome)) :
    List (Event × Option Outcome) :=
  (events.zip outcomes).filter fun entry => !entry.2.any Outcome.lost

/-- Whether an event leaves all identities within 64 bits. -/
def hasRoom (service : Service) : Event → Prop
  | .line number text => ∀ command, Command.ofLine text = .ok command →
    (service.sessions number).hasRoom service.store command
  | _ => True

/-- Whether the events of a history all leave identities within 64 bits. -/
def haveRoom (service : Service) : List Event → Prop
  | [] => True
  | event :: rest => service.hasRoom event ∧ (service.handle event).1.haveRoom rest

/-- A service in memory that has done nothing yet. -/
def inMemory : Service where
  store := .inMemory
  sessions := fun _ => .create

/-- A service over a folder, and the service in memory that it stands for. -/
structure Mirrors (service image : Service) : Prop where
  stores : service.store.Mirrors image.store
  sessions : image.sessions = service.sessions
  simple : ∀ number, (service.sessions number).CurrentSimple

variable {service image : Service}

/-- A line that fails for the storage leaves the image mirrored; any other line does the same
on both sides. -/
theorem Mirrors.line (h : service.Mirrors image) {number : Nat} {text : String}
    (hroom : service.hasRoom (.line number text)) :
    ((service.line number text).2.lost = true → (service.line number text).1.Mirrors image) ∧
      ((service.line number text).2.lost = false →
        (image.line number text).2 = (service.line number text).2 ∧
          (service.line number text).1.Mirrors (image.line number text).1) := by
  have hsessions := congrFun h.sessions number
  have hagrees : (service.sessions number).Agrees
      ((service.sessions number).run service.store text) image.store
      ((image.sessions number).run image.store text) :=
    hsessions ▸ Session.agrees_run h.stores (h.simple number) hroom
  have hsimple : ∀ other, ((service.line number text).1.sessions other).CurrentSimple := by
    intro other
    simp only [Service.line]
    split
    · exact (h.simple number).run text
    · exact h.simple other
  constructor
  · intro hlost
    refine ⟨hagrees.stores.lost hlost, ?_, hsimple⟩
    funext other
    simp only [Service.line, h.sessions]
    split
    next heq => rw [heq, hagrees.lost hlost]
    · rfl
  · intro hkept
    obtain ⟨houtcome, hstores⟩ := hagrees.stores.kept hkept
    refine ⟨houtcome.symm, hstores, ?_, hsimple⟩
    funext other
    simp only [Service.line, h.sessions]
    split
    · rw [hagrees.kept hkept, hsessions]
    · rfl

theorem Mirrors.fail (h : service.Mirrors image) (faults : Storage.Faults) :
    (service.fail faults).Mirrors image := by
  obtain ⟨before, hmode⟩ := h.stores.folder
  have hfail : service.fail faults =
      service.withStorage { service.store.storage with mode := .folder faults } := by
    rw [Service.fail, hmode]
  rw [hfail]
  exact ⟨⟨⟨faults, rfl⟩, h.stores.memory, h.stores.inUse, h.stores.keepable, h.stores.stored,
    h.stores.nothingElse⟩, h.sessions, h.simple⟩

/-- After a restart nothing is in use, but the folder still has every document. -/
theorem Mirrors.restart (h : service.Mirrors image) :
    service.restart.Mirrors { image with sessions := fun _ => .create } := by
  refine ⟨⟨h.stores.folder, h.stores.memory, ?_, h.stores.keepable, h.stores.stored,
    h.stores.nothingElse⟩, rfl, fun _ => Session.currentSimple_create⟩
  intro key database hused
  simp [Service.restart, create, Store.create] at hused

theorem Mirrors.create (faults : Storage.Faults) (path : String) :
    (create { mode := .folder faults, folder := .create path }).Mirrors inMemory := by
  refine ⟨⟨⟨faults, rfl⟩, rfl, ?_, ?_, ?_, ?_⟩, rfl, fun _ => Session.currentSimple_create⟩
  · intro key database hused
    simp [Service.create, Store.create] at hused
  · intro key database hused
    simp [inMemory, Store.inMemory, Store.create] at hused
  · intro key database hused
    simp [inMemory, Store.inMemory, Store.create] at hused
  · intro path entry hentry
    simp [Service.create, Store.create, Folder.create] at hentry

/-- What one event does to a mirrored service. -/
theorem Mirrors.handle (h : service.Mirrors image) {event : Event}
    (hroom : service.hasRoom event) :
    ((service.handle event).2.any Outcome.lost = true →
        (service.handle event).1.Mirrors image) ∧
      ((service.handle event).2.any Outcome.lost = false →
        (image.handleInMemory event).2 = (service.handle event).2 ∧
          (service.handle event).1.Mirrors (image.handleInMemory event).1) := by
  cases event with
  | line number text =>
      obtain ⟨hlost, hkept⟩ := h.line hroom
      refine ⟨hlost, fun hany => ?_⟩
      obtain ⟨houtcome, hmirrors⟩ := hkept hany
      exact ⟨congrArg some houtcome, hmirrors⟩
  | fail faults =>
      have himage : image.fail faults = image := by
        rw [Service.fail, h.stores.memory]
      refine ⟨fun hany => by simp [Service.handle] at hany, fun _ => ⟨rfl, ?_⟩⟩
      simp only [handleInMemory, Service.handle, himage]
      exact h.fail faults
  | restart => exact ⟨fun hany => by simp [Service.handle] at hany, fun _ => ⟨rfl, h.restart⟩⟩

/-- Without the lines that failed for the storage, a history has the same outcomes in memory. -/
theorem Mirrors.handleAll (h : service.Mirrors image) {events : List Event}
    (hroom : service.haveRoom events) :
    let entries := kept events (service.handleAll events).2
    (image.handleAllInMemory (entries.map Prod.fst)).2 = entries.map Prod.snd := by
  induction events generalizing service image with
  | nil => rfl
  | cons event rest ih =>
      obtain ⟨hfirst, hrest⟩ := hroom
      obtain ⟨hlost, hkept⟩ := h.handle hfirst
      cases hany : (service.handle event).2.any Outcome.lost with
      | true =>
          have hentries : kept (event :: rest) (service.handleAll (event :: rest)).2 =
              kept rest ((service.handle event).1.handleAll rest).2 := by
            simp [kept, Service.handleAll, hany]
          rw [hentries]
          exact ih (hlost hany) hrest
      | false =>
          obtain ⟨houtcome, hmirrors⟩ := hkept hany
          have hentries : kept (event :: rest) (service.handleAll (event :: rest)).2 =
              (event, (service.handle event).2) ::
                kept rest ((service.handle event).1.handleAll rest).2 := by
            simp [kept, Service.handleAll, hany]
          rw [hentries]
          simp only [List.map_cons, handleAllInMemory, houtcome, ih hmirrors hrest]

end Service

/-! ## Histories shorter than the identities are many -/

/-- No table of a database in use has given out more identities than the given number. -/
def Store.CountsWithin (store : Store) (bound : Nat) : Prop :=
  ∀ key database, store.databases.find? key = some database → database.CountsWithin bound

namespace Store.CountsWithin

variable {store : Store} {bound : Nat}

theorem mono (h : store.CountsWithin bound) {larger : Nat} (hle : bound ≤ larger) :
    store.CountsWithin larger :=
  fun key database hfound => (h key database hfound).mono hle

theorem put (h : store.CountsWithin bound) {name : String} {database : Database}
    (hdatabase : database.CountsWithin bound) : (store.put name database).CountsWithin bound := by
  intro key other hother
  simp only [Store.put, NameMap.find?_insert] at hother
  split at hother
  · cases hother
    exact hdatabase
  · exact h key other hother

/-- A step gives out one identity at most. -/
theorem step (h : store.CountsWithin bound) {session next : Session} {after : Store}
    {command : Command} {outcome : Outcome}
    (hstep : session.Step store command next after outcome) : after.CountsWithin (bound + 1) := by
  have hlater := h.mono (Nat.le_succ bound)
  cases hstep with
  | created name => exact hlater.put (Database.CountsWithin.create name _)
  | dropped name next =>
      intro key database hfound
      simp only [NameMap.find?_erase] at hfound
      split at hfound
      · simp at hfound
      · exact hlater key database hfound
  | changed _ found made => exact hlater.put ((h _ _ found).of_change made)
  | _ => exact hlater

theorem run (h : store.CountsWithin bound) (htransient : store.storage.Transient)
    (session : Session) (line : String) :
    (session.run store line).2.1.CountsWithin (bound + 1) := by
  unfold Session.run
  split
  next command _ => exact h.step (session.step_execute htransient command)
  · exact h.mono (Nat.le_succ bound)

end Store.CountsWithin

namespace Service

variable {service image : Service} {bound : Nat}

theorem countsWithin_handleInMemory (h : image.store.CountsWithin bound)
    (hmemory : image.store.storage.mode = .memory) (event : Event) :
    (image.handleInMemory event).1.store.CountsWithin (bound + 1) := by
  cases event with
  | line number text =>
      apply h.run
      intro faults hmode
      simp [hmemory] at hmode
  | fail faults =>
      have himage : image.fail faults = image := by
        rw [Service.fail, hmemory]
      simp only [handleInMemory, handle, himage]
      exact h.mono (Nat.le_succ bound)
  | restart => exact h.mono (Nat.le_succ bound)

theorem Mirrors.hasRoom (h : service.Mirrors image) (hcounts : image.store.CountsWithin bound)
    (hbound : bound + 2 < Table.idLimit) (event : Event) : service.hasRoom event := by
  cases event with
  | line number text =>
      intro command _
      cases command with
      | change change =>
          intro name database hcurrent hfetched
          rcases h.stores.fetch (h.simple number name hcurrent) with ⟨fault, hfetch⟩ | hfetch
          · simp [hfetch] at hfetched
          · obtain ⟨loaded, -, hfetch⟩ := hfetch
            rw [hfetch] at hfetched
            cases hfound : image.store.databases.find? (Name.key name) with
            | none => simp [hfound] at hfetched
            | some found =>
                have hcount := hcounts _ _ hfound
                simp only [hfound, Except.ok.injEq] at hfetched
                exact hfetched ▸ hcount.hasRoom hbound change
      | _ => trivial
  | _ => trivial

/-- A history with fewer events than there are identities leaves them within 64 bits. -/
theorem Mirrors.haveRoom (h : service.Mirrors image) (hcounts : image.store.CountsWithin bound)
    {events : List Event} (hlength : bound + events.length + 1 < Table.idLimit) :
    service.haveRoom events := by
  induction events generalizing service image bound with
  | nil => trivial
  | cons event rest ih =>
      rw [List.length_cons] at hlength
      have hroom := h.hasRoom hcounts (by omega) event
      obtain ⟨hlost, hkept⟩ := h.handle hroom
      refine ⟨hroom, ?_⟩
      cases hany : (service.handle event).2.any Outcome.lost with
      | true => exact ih (hlost hany) (hcounts.mono (Nat.le_succ bound)) (by omega)
      | false =>
          have hafter := countsWithin_handleInMemory hcounts h.stores.memory event
          exact ih (hkept hany).2 hafter (by omega)

/-- Whatever fails and whenever the service over a folder is restarted: without the lines that
failed for the storage, and with restarts that only forget the sessions, a service in memory
gives the same outcomes and the same responses. -/
theorem outcomes_in_memory (faults : Storage.Faults) (path : String) (events : List Event)
    (hroom : (create { mode := .folder faults, folder := .create path }).haveRoom events) :
    let service := create { mode := .folder faults, folder := .create path }
    let entries := kept events (service.handleAll events).2
    let outcomes := (inMemory.handleAllInMemory (entries.map Prod.fst)).2
    outcomes = entries.map Prod.snd ∧
      outcomes.map (·.map Response.ofOutcome) =
        entries.map fun entry => entry.2.map Response.ofOutcome := by
  have houtcomes := (Mirrors.create faults path).handleAll hroom
  refine ⟨houtcomes, ?_⟩
  simp only [houtcomes, List.map_map]
  rfl

/-- A history in which a change is undone, and then made after a restart. -/
def interrupted : List Event :=
  [.line 0 "CREATE DATABASE Shop;", .line 0 "USE shop;",
    .fail { save := true, load := false, remove := false }, .line 0 "CREATE TABLE Items (name);",
    .restart, .fail .none, .line 1 "USE SHOP;", .line 1 "CREATE TABLE Items (name);",
    .line 1 "INSERT INTO items VALUES ('pen');", .line 1 "SELECT * FROM items;"]

theorem outcomes_of_interrupted :
    let service := create { mode := .folder .none, folder := .create "data" }
    let entries := kept interrupted (service.handleAll interrupted).2
    let outcomes := (inMemory.handleAllInMemory (entries.map Prod.fst)).2
    service.haveRoom interrupted ∧ outcomes = entries.map Prod.snd ∧
      outcomes.map (·.map Response.ofOutcome) =
        entries.map fun entry => entry.2.map Response.ofOutcome := by
  have hcounts : inMemory.store.CountsWithin 0 := by
    intro key database hfound
    simp [inMemory, Store.inMemory, Store.create] at hfound
  have hlength : 0 + interrupted.length + 1 < Table.idLimit := by decide
  have hroom := (Mirrors.create .none "data").haveRoom hcounts hlength
  exact ⟨hroom, outcomes_in_memory .none "data" interrupted hroom⟩

end Service

end Rowbase
