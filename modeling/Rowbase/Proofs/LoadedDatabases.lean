import Rowbase.Proofs.Saves
import Rowbase.Proofs.SeparateDatabases

/-!
# Loaded databases

A database is loaded from the file of the name that is asked for and saved to the file of its
own name. Where the two are the same file, what is in use is what is loaded again, and where
they are not, the changes go to another file and what is loaded again is the first state.
-/

namespace Rowbase

namespace Database

/-! ## Later states -/

/-- A later state of a loaded database. It passes the check unless identities started at 0. -/
structure Later (loaded current : Database) : Prop where
  name : current.name = loaded.name
  fits : current.All fun table => table.nextId < Table.idLimit
  consistent : (loaded.All fun table => 1 ≤ table.nextId) →
    current.All fun table => table.Consistent ∧ 1 ≤ table.nextId

variable {loaded current changed : Database}

theorem Later.refl (hfits : loaded.Fits) (hconsistent : loaded.isConsistent) :
    loaded.Later loaded := by
  have hall := isConsistent_iff.mp hconsistent
  refine ⟨rfl, fun key table htable => ?_, fun hpositive key table htable => ?_⟩
  · exact ⟨(hall key table htable).1, hfits key table htable⟩
  · exact ⟨(hall key table htable).1, (hall key table htable).2, (hpositive key table htable).2⟩

theorem Later.change (h : loaded.Later current) {change : Change}
    (hroom : current.hasRoom change) (hchange : current.change change = .ok changed) :
    loaded.Later changed :=
  ⟨(step_of_change hchange).name.trans h.name, h.fits.fits_of_change hroom hchange,
    fun hpositive => (h.consistent hpositive).consistent_of_change hchange⟩

theorem Later.attemptAll (h : loaded.Later current) {changes : List Change}
    (hroom : current.haveRoom changes) : loaded.Later (current.attemptAll changes) :=
  of_attemptAll loaded.Later (fun h hroom hchange => h.change hroom hchange) h hroom

theorem Later.isConsistent (h : loaded.Later current)
    (hpositive : loaded.All fun table => 1 ≤ table.nextId) : current.isConsistent = true :=
  isConsistent_iff.mpr ((h.consistent hpositive).mono fun _ htable => htable.1)

end Database

/-! ## Storages -/

namespace Storage

variable {start storage after : Storage} {name place : String} {bytes : ByteArray}
variable {loaded current changed : Database} {faults : Faults}

/-- A file that can be read is loaded as what its bytes hold. -/
theorem load_of_found (hmode : storage.mode = .folder faults) (hfault : faults.load = false)
    (hplace : storage.folder.locate (fileName name) = .ok place)
    (hfound : storage.folder.entries.find? place = some (.file bytes)) :
    storage.load name = (decode (storage.folder.path ++ "/" ++ fileName name) bytes).map some := by
  have hread : storage.folder.read (fileName name) = .ok bytes :=
    Folder.read_eq_ok_iff.mpr ⟨place, hplace, hfound⟩
  simp only [load, hmode, hfault, hread]
  rfl

theorem exists_of_load (h : storage.load name = .ok (some loaded)) :
    ∃ faults place bytes, storage.mode = .folder faults ∧ faults.load = false ∧
      storage.folder.locate (fileName name) = .ok place ∧
      storage.folder.entries.find? place = some (.file bytes) ∧
      decode (storage.folder.path ++ "/" ++ fileName name) bytes = .ok loaded := by
  unfold load at h
  split at h
  · simp at h
  · simp at h
  next faults hmode =>
    split at h
    · simp at h
    next hfault =>
      split at h
      · simp at h
      · simp at h
      next bytes hread =>
        obtain ⟨place, hplace, hfound⟩ := Folder.read_eq_ok_iff.mp hread
        obtain ⟨database, hdecode, hdatabase⟩ := map_eq_ok_iff.mp h
        cases hdatabase
        exact ⟨faults, place, bytes, hmode, Bool.eq_false_of_not_eq_true hfault, hplace, hfound,
          hdecode⟩

/-- A storage in which a later state of a loaded database has been saved, or no change at all. -/
structure Follows (start : Storage) (loaded current : Database) (storage : Storage) : Prop where
  folder : ∃ faults, storage.mode = .folder faults
  onlySaved : OnlySaved loaded.name start.folder storage.folder
  file : current = loaded ∧ SameDocuments start.folder storage.folder ∨
    ∃ place, start.folder.locate (fileName loaded.name) = .ok place ∧
      storage.folder.entries.find? place = some (document current)

/-- What is loaded under a name again, when a later state of the database that was loaded under
it before has been saved. -/
structure Reloads (start : Storage) (name : String) (loaded current : Database)
    (after : Storage) : Prop where
  samePlace : start.folder.locate (fileName loaded.name) = start.folder.locate (fileName name) →
    after.load name = if current.isConsistent then .ok (some current)
      else .error (.inconsistent (start.folder.path ++ "/" ++ fileName name))
  otherPlace : start.folder.locate (fileName loaded.name) ≠ start.folder.locate (fileName name) →
    after.load name = .ok (some loaded)
  consistent : (loaded.All fun table => 1 ≤ table.nextId) → current.isConsistent = true

namespace Follows

theorem refl (hmode : storage.mode = .folder faults) (loaded : Database) :
    storage.Follows loaded loaded storage :=
  ⟨⟨faults, hmode⟩, .refl _ _, .inl ⟨rfl, fun _ _ => rfl⟩⟩

/-- A save leaves the folder as it is outside the file and the draft. -/
theorem onlySaved_save (h : start.Follows loaded current storage)
    (hname : changed.name = loaded.name) :
    OnlySaved loaded.name start.folder (storage.save changed).1.folder :=
  h.onlySaved.trans (hname ▸ (Storage.onlySaved_save storage changed).2)

/-- A later state that is saved takes the place of the one before. -/
theorem saved (h : start.Follows loaded current storage) (hname : changed.name = loaded.name)
    (hsave : storage.save changed = (after, .saved)) : start.Follows loaded changed after := by
  obtain ⟨faults, hmode⟩ := h.folder
  have hafter := (Storage.onlySaved_save storage changed).1
  have honly := h.onlySaved_save hname
  obtain ⟨place, hplace, hfound⟩ := exists_of_save_saved hmode hsave
  rw [hsave] at hafter honly
  rw [hname] at hplace
  have hsame := h.onlySaved.toSameDirectories
  exact ⟨⟨faults, hafter.trans hmode⟩, honly,
    .inr ⟨place, hsame.locate_iff.mp hplace, hfound⟩⟩

/-- A save that fails leaves the state that was saved before. -/
theorem failed (h : start.Follows loaded current storage) (hname : changed.name = loaded.name)
    {fault : StorageFault} (hsave : storage.save changed = (after, .failed fault)) :
    start.Follows loaded current after := by
  obtain ⟨faults, hmode⟩ := h.folder
  obtain ⟨hafter, hdocuments⟩ := sameDocuments_of_save hsave
  have honly := h.onlySaved_save hname
  rw [hsave] at honly
  refine ⟨⟨faults, hafter.trans hmode⟩, honly, ?_⟩
  rcases h.file with ⟨hcurrent, hsame⟩ | ⟨place, hplace, hfound⟩
  · exact .inl ⟨hcurrent, fun path hpath => (hdocuments path hpath).trans (hsame path hpath)⟩
  · refine .inr ⟨place, hplace, ?_⟩
    rw [hdocuments place
      (Folder.suffix_of_locate (by decide) (suffix_fileName loaded.name) hplace), hfound]

/-- What is loaded again depends on whether the two names lead to the same file. -/
theorem reloads (h : start.Follows loaded current storage) (hlater : loaded.Later current)
    (hload : start.load name = .ok (some loaded)) (hmode : storage.mode = .folder faults)
    (hfault : faults.load = false) : start.Reloads name loaded current storage := by
  obtain ⟨_, place, bytes, -, -, hplace, hfound, hdecode⟩ := exists_of_load hload
  have hsame := h.onlySaved.toSameDirectories
  have hreload {bytes : ByteArray}
      (hbytes : storage.folder.entries.find? place = some (.file bytes)) :
      storage.load name =
        (decode (start.folder.path ++ "/" ++ fileName name) bytes).map some := by
    rw [load_of_found hmode hfault (hsame.locate hplace) hbytes, hsame.path]
  have hending := Folder.suffix_of_locate (by decide) (suffix_fileName name) hplace
  refine ⟨fun hplaces => ?_, fun hplaces => ?_, hlater.isConsistent⟩
  · rcases h.file with ⟨rfl, hdocuments⟩ | ⟨other, hother, hdocument⟩
    · rw [hreload ((hdocuments place hending).trans hfound), hdecode,
        if_pos (fits_of_decode hdecode).2]
      rfl
    · rw [hplaces, hplace] at hother
      cases hother
      have hfits : current.Fits := fun key table htable => (hlater.fits key table htable).2
      rw [hreload hdocument, decode_write_eq hfits]
      split
      · rfl
      · rfl
  · have hfile : storage.folder.entries.find? place = some (.file bytes) := by
      rw [h.onlySaved.others place (hplace ▸ hplaces), hfound]
      exact fun hdraft => draft_ne_file hplace hdraft rfl
    rw [hreload hfile, hdecode]
    rfl

end Follows

end Storage

/-! ## Stores that use a loaded database -/

/-- A store that uses a later state of a loaded database, and has saved it. -/
structure Store.Uses (start : Storage) (name : String) (loaded : Database) (store : Store)
    (current : Database) : Prop where
  inUse : store.databases.find? (Name.key name) = some current
  later : loaded.Later current
  follows : start.Follows loaded current store.storage

namespace Store.Uses

variable {start : Storage} {store : Store} {name : String} {loaded current : Database}

theorem fetch (h : store.Uses start name loaded current) :
    store.fetch (Name.key name) = (store, .ok current) := by
  rw [Store.fetch, Name.key_key, h.inUse]

/-- A change that cannot be saved leaves the state in use, and any other is saved. -/
theorem change (h : store.Uses start name loaded current) {change : Change}
    (hroom : current.hasRoom change) :
    ∃ next, (store.change (Name.key name) change).1.Uses start name loaded next := by
  rw [change_eq, h.fetch, ok_bind]
  cases hchange : current.change change with
  | error error => exact ⟨current, h⟩
  | ok changed =>
      have hlater := h.later.change hroom hchange
      rw [replace]
      cases hsave : store.storage.save changed with
      | mk storage saving =>
          cases saving with
          | saved =>
              refine ⟨changed, ?_, hlater, h.follows.saved hlater.name hsave⟩
              simp [Store.put]
          | failed fault =>
              exact ⟨current, h.inUse, h.later, h.follows.failed hlater.name hsave⟩
          | stopped =>
              obtain ⟨_, hmode⟩ := h.follows.folder
              exact absurd (congrArg Prod.snd hsave) (Storage.save_ne_stopped hmode changed)

theorem query (h : store.Uses start name loaded current) (query : Query) :
    (store.query (Name.key name) query).1 = store := by
  rw [query_eq, h.fetch]

end Store.Uses

/-! ## Sessions that use a loaded database -/

namespace Session

variable {start : Storage} {session : Session} {store : Store} {name line : String}
variable {loaded current : Database}

theorem uses_run (h : store.Uses start name loaded current) (hline : Command.onTables line)
    (hcurrent : session.current = some (Name.key name))
    (hroom : ∀ command, Command.ofLine line = .ok command → session.hasRoom store command) :
    ∃ next, (session.run store line).2.1.Uses start name loaded next := by
  unfold Command.onTables at hline
  unfold run
  split at hline
  next change hcommand =>
    rw [hcommand]
    simp only [execute, withCurrent, hcurrent]
    exact h.change (hroom _ hcommand _ _ hcurrent (congrArg Prod.snd h.fetch))
  next query hcommand =>
    rw [hcommand]
    simp only [execute, withCurrent, hcurrent, h.query query]
    exact ⟨current, h⟩
  next hcommand =>
    rw [hcommand]
    exact ⟨current, h⟩
  · simp at hline

end Session

namespace Service

/-- A line about tables in the session of the given number, or a change of what fails. -/
inductive Event.OnTables (number : Nat) : Event → Prop where
  | line {text : String} (onTables : Command.onTables text) :
      OnTables number (.line number text)
  | fail (faults : Storage.Faults) : OnTables number (.fail faults)

/-- A session that has chosen a loaded database, in a service that uses it. -/
structure Uses (start : Storage) (name : String) (loaded : Database) (service : Service)
    (number : Nat) : Prop where
  chosen : (service.sessions number).current = some (Name.key name)
  store : ∃ current, service.store.Uses start name loaded current

variable {start : Storage} {service : Service} {number : Nat} {name : String}
variable {loaded current : Database}

theorem Uses.handle (h : service.Uses start name loaded number) {event : Event}
    (hevent : event.OnTables number) (hroom : service.hasRoom event) :
    (service.handle event).1.Uses start name loaded number := by
  obtain ⟨current, huses⟩ := h.store
  cases hevent with
  | line onTables =>
      refine ⟨?_, Session.uses_run huses onTables h.chosen hroom⟩
      exact congrArg (fun sessions => (sessions number).current)
        (sessions_line onTables service number) ▸ h.chosen
  | fail faults =>
      obtain ⟨before, hmode⟩ := huses.follows.folder
      simp only [Service.handle, Service.fail, hmode]
      exact ⟨h.chosen, current, huses.inUse, huses.later,
        ⟨⟨faults, rfl⟩, huses.follows.onlySaved, huses.follows.file⟩⟩

theorem Uses.handleAll (h : service.Uses start name loaded number) {events : List Event}
    (hevents : ∀ event ∈ events, event.OnTables number) (hroom : service.haveRoom events) :
    (service.handleAll events).1.Uses start name loaded number := by
  induction events generalizing service with
  | nil => exact h
  | cons event rest ih =>
      obtain ⟨hfirst, hrest⟩ := List.forall_mem_cons.mp hevents
      exact ih (h.handle hfirst hroom.1) hrest hroom.2

/-- The session that chooses a database that is not in use yet has it loaded. -/
theorem uses_of_load (hload : service.store.storage.load name = .ok (some loaded))
    (hfree : service.store.databases.find? (Name.key name) = none) {text : String}
    (huse : Command.ofLine text = .ok (.use name)) (number : Nat) :
    (service.line number text).1.Uses service.store.storage name loaded number := by
  obtain ⟨faults, _, _, hmode, -, -, -, hdecode⟩ := Storage.exists_of_load hload
  obtain ⟨hfits, hconsistent⟩ := Storage.fits_of_decode hdecode
  have hrun : (service.sessions number).run service.store text =
      ({ current := some (Name.key name) }, service.store.put name loaded, .done) := by
    simp only [Session.run, huse, Session.execute, Store.fetch, hfree, hload]
  refine ⟨?_, loaded, ?_, .refl hfits hconsistent, ?_⟩
  · simp [line, hrun]
  · simp [line, hrun, Store.put]
  · simp only [line, hrun]
    exact .refl hmode loaded

/-- A database that is loaded under a name is saved to the file of its own name, and no other
file is touched, neither by one save of a later state nor by the lines of a session that has
chosen it. What is in use is what is loaded again if both names lead to the same file. -/
theorem reloads_of_load (hload : service.store.storage.load name = .ok (some loaded)) :
    (∀ changes after, loaded.haveRoom changes →
      service.store.storage.save (loaded.attemptAll changes) = (after, .saved) →
        Storage.OnlySaved loaded.name service.store.storage.folder after.folder ∧
        (∃ place,
          service.store.storage.folder.locate (Storage.fileName loaded.name) = .ok place ∧
          after.folder.entries.find? place =
            some (Storage.document (loaded.attemptAll changes))) ∧
        service.store.storage.Reloads name loaded (loaded.attemptAll changes) after) ∧
      ∀ number text events, service.store.databases.find? (Name.key name) = none →
        Command.ofLine text = .ok (.use name) → (∀ event ∈ events, event.OnTables number) →
        (service.line number text).1.haveRoom events →
          let after := ((service.line number text).1.handleAll events).1
          ∃ current, after.store.databases.find? (Name.key name) = some current ∧
            Storage.OnlySaved loaded.name service.store.storage.folder
              after.store.storage.folder ∧
            service.store.storage.Reloads name loaded current
              (after.fail .none).restart.store.storage := by
  obtain ⟨faults, _, _, hmode, hfault, -, -, hdecode⟩ := Storage.exists_of_load hload
  obtain ⟨hfits, hconsistent⟩ := Storage.fits_of_decode hdecode
  have hloaded := Database.Later.refl hfits hconsistent
  constructor
  · intro changes after hroom hsave
    have hlater := hloaded.attemptAll hroom
    have hfollows := (Storage.Follows.refl hmode loaded).saved hlater.name hsave
    obtain ⟨place, hplace, hfound⟩ := Storage.exists_of_save_saved hmode hsave
    have hafter := (Storage.onlySaved_save service.store.storage (loaded.attemptAll changes)).1
    rw [hsave] at hafter
    rw [hlater.name] at hplace
    exact ⟨hfollows.onlySaved, ⟨place, hplace, hfound⟩,
      hfollows.reloads hlater hload (hafter.trans hmode) hfault⟩
  · intro number text events hfree huse hevents hroom after
    obtain ⟨current, huses⟩ :=
      ((uses_of_load hload hfree huse number).handleAll hevents hroom).store
    obtain ⟨before, hbefore⟩ := huses.follows.folder
    refine ⟨current, huses.inUse, huses.follows.onlySaved, ?_⟩
    have hafter : (after.fail .none).restart.store.storage =
        { after.store.storage with mode := .folder .none } := by
      simp only [Service.fail, after, hbefore]
      rfl
    rw [hafter]
    have hfollows : service.store.storage.Follows loaded current
        { after.store.storage with mode := .folder .none } :=
      ⟨⟨.none, rfl⟩, huses.follows.onlySaved, huses.follows.file⟩
    exact hfollows.reloads huses.later hload rfl rfl

/-- A folder in which the document of one database stands under the name of another. -/
def mislaid : Service :=
  create { mode := .folder .none, folder := {
    path := "data"
    entries := NameMap.empty.insert (Storage.fileName "a")
      (Storage.document (Database.create "b")) } }

theorem files_mislaid :
    Storage.fileName "a" = "a.json" ∧ Storage.fileName "b" = "b.json" ∧
      Storage.draftName "b" = "b.json.tmp" := by
  refine ⟨by cbv, by cbv, by cbv⟩

theorem simple_mislaid : Name.Simple "a" ∧ Name.Simple "b" := by
  constructor
  · constructor <;> (rw [Name.toList_key]; decide)
  · constructor <;> (rw [Name.toList_key]; decide)

theorem locate_mislaid :
    mislaid.store.storage.folder.locate (Storage.fileName "a") = .ok "a.json" ∧
      mislaid.store.storage.folder.locate (Storage.fileName "b") = .ok "b.json" := by
  obtain ⟨hfile, hother, -⟩ := files_mislaid
  constructor
  · rw [Storage.locate_fileName simple_mislaid.1, hfile, if_neg (by decide)]
  · rw [Storage.locate_fileName simple_mislaid.2, hother, if_neg (by decide)]

theorem load_mislaid : mislaid.store.storage.load "a" = .ok (some (Database.create "b")) := by
  have hfound : mislaid.store.storage.folder.entries.find? "a.json" =
      some (.file (Database.create "b").write.toUTF8) := by
    simp [mislaid, create, Store.create, files_mislaid.1, Storage.document]
  rw [Storage.load_of_found rfl rfl locate_mislaid.1 hfound,
    Storage.decode_write (Database.WellFormed.create "b")]
  rfl

/-- The database of the document, with a table more. -/
def extended : Database :=
  (Database.create "b").attemptAll [.createTable "t" []]

theorem save_mislaid :
    mislaid.store.storage.save extended =
      ({ mode := .folder .none
         folder := Storage.savedFolder mislaid.store.storage.folder extended }, .saved) := by
  have hflat : mislaid.store.storage.folder.Flat := by
    intro path
    simp only [mislaid, create, Store.create, NameMap.find?_insert, Storage.document]
    split
    · simp
    · simp
  have hname : extended.name = "b" := rfl
  have hdraft : ¬Folder.nameLimit < (Storage.draftName extended.name).utf8ByteSize := by
    rw [hname, files_mislaid.2.2]
    decide
  have hmode : mislaid.store.storage.mode = .folder .none := rfl
  rw [Storage.save_of_simple hmode hflat simple_mislaid.2, if_neg hdraft]
  rfl

/-- A table that is made in the database does not survive, whether a state with it is saved or a
session that has chosen the database makes it. -/
theorem reloads_of_mislaid :
    mislaid.store.storage.load "a" = .ok (some (Database.create "b")) ∧
      extended ≠ Database.create "b" ∧
      (∃ after, mislaid.store.storage.save extended = (after, .saved) ∧
        after.load "a" = .ok (some (Database.create "b"))) ∧
      let after := ((mislaid.line 0 "USE a;").1.handleAll [.line 0 "CREATE TABLE t;"]).1
      ∃ current, after.store.databases.find? (Name.key "a") = some current ∧
        (after.fail .none).restart.store.storage.load "a" = .ok (some (Database.create "b")) := by
  have hne : extended ≠ Database.create "b" := by
    intro heq
    have htables := congrArg (·.tables.entries.length) heq
    exact absurd htables (by decide)
  have hplaces : mislaid.store.storage.folder.locate (Storage.fileName "b") ≠
      mislaid.store.storage.folder.locate (Storage.fileName "a") := by
    rw [locate_mislaid.1, locate_mislaid.2]
    simp
  obtain ⟨hsaves, hlines⟩ := reloads_of_load load_mislaid
  refine ⟨load_mislaid, hne, ?_, ?_⟩
  · obtain ⟨-, -, hreloads⟩ := hsaves [.createTable "t" []] _ rfl save_mislaid
    exact ⟨_, save_mislaid, hreloads.otherPlace hplaces⟩
  · have huse : Command.ofLine "USE a;" = .ok (.use "a") := by cbv
    have hmake : Command.ofLine "CREATE TABLE t;" = .ok (.change (.createTable "t" [])) := by cbv
    have honTables : Command.onTables "CREATE TABLE t;" := by rw [Command.onTables, hmake]
    have hroom : (mislaid.line 0 "USE a;").1.hasRoom (.line 0 "CREATE TABLE t;") := by
      intro command hcommand
      rw [hmake] at hcommand
      cases hcommand
      exact fun _ _ _ _ => rfl
    obtain ⟨current, hcurrent, -, hreloads⟩ := hlines 0 "USE a;" [.line 0 "CREATE TABLE t;"] rfl
      huse (List.forall_mem_singleton.mpr (.line honTables)) ⟨hroom, trivial⟩
    exact ⟨current, hcurrent, hreloads.otherPlace hplaces⟩

end Service

end Rowbase
