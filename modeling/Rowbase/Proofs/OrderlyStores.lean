import Rowbase.Proofs.DurableRefinement
import Rowbase.Proofs.Mentions

/-!
# Orderly stores

A store that has started with an empty folder keeps every database under the key of its name, and
its folder holds documents only, each in the file of the database's own name. Whatever holds of
new databases and is kept by changes holds of all of them, those in use and those stored.
-/

namespace Rowbase

/-- A property that new databases have and that changes keep. -/
structure Database.Lasting (good : Database → Prop) : Prop where
  create : ∀ name, good (Database.create name)
  change : ∀ {database changed : Database} {change : Change}, good database →
    (∀ name ∈ change.mentioned, Token.Named name) → database.change change = .ok changed →
      good changed

/-- A database with the property that can be kept in a storage of the given kind. -/
structure Storage.Mode.Keeps (good : Database → Prop) (mode : Storage.Mode)
    (database : Database) : Prop where
  simple : Name.Simple database.name
  fits : ∀ faults, mode = .folder faults →
    (Storage.draftName database.name).utf8ByteSize ≤ Folder.nameLimit
  good : good database

/-- The folder of a storage holds only documents of databases that it can keep, each in the file
of the database's name. -/
def Storage.Orderly (good : Database → Prop) (storage : Storage) : Prop :=
  ∀ path entry, storage.folder.entries.find? path = some entry →
    ∃ database, path = Storage.fileName database.name ∧ entry = Storage.document database ∧
      storage.mode.Keeps good database

/-- Every database in use stands under the key of its name, and the folder is orderly. -/
structure Store.Orderly (good : Database → Prop) (store : Store) : Prop where
  inUse : ∀ key database, store.databases.find? key = some database →
    key = Name.key database.name ∧ store.storage.mode.Keeps good database
  stored : store.storage.Orderly good

/-! ## Storages -/

namespace Storage

variable {good : Database → Prop} {storage : Storage} {database : Database} {name : String}

theorem Orderly.flat (h : storage.Orderly good) : storage.folder.Flat := by
  intro path hpath
  obtain ⟨database, -, hentry, -⟩ := h path _ hpath
  simp [document] at hentry

theorem Orderly.create (mode : Mode) (path : String) :
    Orderly good { mode, folder := .create path } := by
  intro path entry hentry
  simp [Folder.create] at hentry

/-- What is loaded under a simple name is the database of that name. -/
theorem Orderly.of_load (h : storage.Orderly good) (hsimple : Name.Simple name)
    (hload : storage.load name = .ok (some database)) :
    Name.key name = Name.key database.name ∧ storage.mode.Keeps good database := by
  unfold load at hload
  split at hload
  · simp at hload
  · simp at hload
  · split at hload
    · simp at hload
    · split at hload
      · simp at hload
      · simp at hload
      next bytes hread =>
        obtain ⟨place, hplace, hfound⟩ := Folder.read_eq_ok_iff.mp hread
        rw [locate_fileName hsimple] at hplace
        split at hplace
        · simp at hplace
        · cases hplace
          obtain ⟨written, hpath, hentry, hkeeps⟩ := h _ _ hfound
          cases hentry
          obtain ⟨found, hdecode, hfound⟩ := map_eq_ok_iff.mp hload
          cases hfound
          rw [eq_of_decode_write hdecode]
          exact ⟨key_eq_of_fileName_eq hpath, hkeeps⟩

/-- A save into the folder leaves it orderly. -/
theorem Orderly.savedFolder (h : storage.Orderly good) (hkeeps : storage.mode.Keeps good database) :
    Orderly good { storage with folder := savedFolder storage.folder database } := by
  intro path entry hentry
  simp only [find?_savedFolder] at hentry
  split at hentry
  next hpath =>
    cases hentry
    exact ⟨database, hpath.symm, rfl, hkeeps⟩
  · split at hentry
    · cases hentry
    · exact h path entry hentry

/-- What becomes of the save of a database with a simple name. It fails without a trace, or the
storage can keep the database, and unless it keeps none at all the folder has the document. -/
theorem Orderly.save_cases (h : storage.Orderly good) (hsimple : Name.Simple database.name)
    (hgood : good database) :
    (∃ fault, storage.save database = (storage, .failed fault)) ∨
      storage.mode.Keeps good database ∧
        ((∃ faults, storage.mode = .folder faults) ∧
            storage.save database =
              ({ storage with folder := Storage.savedFolder storage.folder database }, .saved) ∨
          storage.Transient ∧
            storage.save database = (storage, if storage.stops then .stopped else .saved)) := by
  by_cases hfolder : ∃ faults, storage.mode = .folder faults
  · obtain ⟨faults, hmode⟩ := hfolder
    rw [save_of_simple hmode h.flat hsimple]
    split
    · exact .inl ⟨_, rfl⟩
    · split
      · exact .inl ⟨_, rfl⟩
      next hfits =>
        have hkeeps : storage.mode.Keeps good database :=
          ⟨hsimple, fun _ _ => Nat.le_of_not_lt hfits, hgood⟩
        exact .inr ⟨hkeeps, .inl ⟨⟨faults, hmode⟩, rfl⟩⟩
  · have htransient : storage.Transient := not_exists.mp hfolder
    have hkeeps : storage.mode.Keeps good database :=
      ⟨hsimple, fun faults h => absurd h (htransient faults), hgood⟩
    exact .inr ⟨hkeeps, .inr ⟨htransient, htransient.save database⟩⟩

theorem Orderly.remove (h : storage.Orderly good) {after : Storage}
    (hremove : storage.remove name = .ok after) :
    after.mode = storage.mode ∧ after.Orderly good := by
  unfold Storage.remove at hremove
  split at hremove
  · cases hremove
    exact ⟨rfl, h⟩
  · cases hremove
    exact ⟨rfl, h⟩
  · split at hremove
    · simp at hremove
    · split at hremove
      · cases hremove
        exact ⟨rfl, h⟩
      · simp at hremove
      next folder hfolder =>
        cases hremove
        refine ⟨rfl, fun path entry hentry => ?_⟩
        obtain ⟨bytes, -, hfolder⟩ := bind_eq_ok_iff.mp hfolder
        obtain ⟨place, -, hchanged⟩ := bind_eq_ok_iff.mp hfolder
        cases hchanged
        simp only [NameMap.find?_erase] at hentry
        split at hentry
        · simp at hentry
        · exact h path entry hentry

end Storage

/-! ## Stores -/

namespace Store

variable {good : Database → Prop} {store : Store} {name : String}

theorem Orderly.put (h : store.Orderly good) {database : Database}
    (hname : Name.key name = Name.key database.name)
    (hkeeps : store.storage.mode.Keeps good database) : (store.put name database).Orderly good := by
  refine ⟨fun key other hother => ?_, h.stored⟩
  simp only [Store.put, NameMap.find?_insert] at hother
  split at hother
  next heq =>
    cases hother
    exact ⟨heq ▸ hname, hkeeps⟩
  · exact h.inUse key other hother

theorem Orderly.withStorage (h : store.Orderly good) {storage : Storage}
    (hmode : storage.mode = store.storage.mode) (hstorage : storage.Orderly good) :
    Orderly good { store with storage } := by
  refine ⟨fun key database hfound => ?_, hstorage⟩
  rw [hmode]
  exact h.inUse key database hfound

/-- A fetched database is the one of that name. -/
theorem Orderly.fetch (h : store.Orderly good) (hsimple : Name.Simple name) :
    (store.fetch name).1.Orderly good ∧
      ∀ database, (store.fetch name).2 = .ok database →
        Name.key name = Name.key database.name ∧ store.storage.mode.Keeps good database := by
  unfold Store.fetch
  split
  next database hfound =>
    refine ⟨h, fun other hother => ?_⟩
    cases hother
    exact h.inUse _ _ hfound
  · split
    · exact ⟨h, fun other hother => by cases hother⟩
    · exact ⟨h, fun other hother => by cases hother⟩
    next database hload =>
      have hloaded := h.stored.of_load hsimple hload
      refine ⟨h.put hloaded.1 hloaded.2, fun other hother => ?_⟩
      cases hother
      exact hloaded

/-- A save leaves an orderly store, and unless it fails the database can be put in use. -/
theorem Orderly.save (h : store.Orderly good) {database : Database}
    (hsimple : Name.Simple database.name) (hgood : good database) :
    Orderly good { store with storage := (store.storage.save database).1 } ∧
      ((∀ fault, (store.storage.save database).2 ≠ .failed fault) →
        (store.storage.save database).1.mode.Keeps good database) := by
  rcases h.stored.save_cases hsimple hgood with ⟨fault, hsave⟩ | ⟨hkeeps, ⟨-, hsave⟩ | ⟨-, hsave⟩⟩
  · rw [hsave]
    exact ⟨h, fun hnot => absurd rfl (hnot fault)⟩
  · rw [hsave]
    exact ⟨h.withStorage rfl (h.stored.savedFolder hkeeps), fun _ => hkeeps⟩
  · rw [hsave]
    exact ⟨h, fun _ => hkeeps⟩

theorem Orderly.createDatabase (h : store.Orderly good) (hlasting : Database.Lasting good)
    (hsimple : Name.Simple name) : (store.createDatabase name).1.Orderly good := by
  unfold Store.createDatabase
  split
  · exact h
  · have hnew : Name.Simple (Database.create name).name := hsimple
    obtain ⟨hafter, hkeeps⟩ := h.save hnew (hlasting.create name)
    simp only
    split
    next storage hsaved =>
      rw [hsaved] at hafter hkeeps
      exact hafter.put rfl (hkeeps (by simp))
    next storage fault hfailed =>
      rw [hfailed] at hafter
      exact hafter
    next storage hstopped =>
      rw [hstopped] at hafter
      exact hafter

theorem Orderly.dropDatabase (h : store.Orderly good) :
    (store.dropDatabase name).1.Orderly good := by
  unfold Store.dropDatabase
  split
  · split
    · exact h
    next storage hremove =>
      obtain ⟨hmode, hstored⟩ := h.stored.remove hremove
      refine ⟨fun key database hfound => ?_, hstored⟩
      simp only [NameMap.find?_erase] at hfound
      split at hfound
      · simp at hfound
      · rw [hmode]
        exact h.inUse key database hfound
  · exact h

/-- What a change makes of the database of a name goes by the same name. -/
theorem Orderly.changed (h : store.Orderly good) (hlasting : Database.Lasting good)
    (hsimple : Name.Simple name) {change : Change}
    (hnames : ∀ name ∈ change.mentioned, Token.Named name) {changed : Database}
    (hmade : ((store.fetch name).2 >>= (·.change change)) = .ok changed) :
    Name.key name = Name.key changed.name ∧ Name.Simple changed.name ∧ good changed := by
  obtain ⟨database, hfetched, hchange⟩ := bind_eq_ok_iff.mp hmade
  obtain ⟨hkey, hkeeps⟩ := (h.fetch hsimple).2 database hfetched
  have hname : changed.name = database.name := (Database.step_of_change hchange).name
  rw [hname]
  exact ⟨hkey, hkeeps.simple, hlasting.change hkeeps.good hnames hchange⟩

theorem Orderly.replace (h : store.Orderly good) {made : Except Error Database}
    (hmade : ∀ changed, made = .ok changed →
      Name.key name = Name.key changed.name ∧ Name.Simple changed.name ∧ good changed) :
    (store.replace name made).1.Orderly good := by
  cases made with
  | error error => exact h
  | ok changed =>
      obtain ⟨hkey, hsimple, hgood⟩ := hmade changed rfl
      obtain ⟨hafter, hkept⟩ := h.save hsimple hgood
      rw [Store.replace]
      split
      next storage hsaved =>
        rw [hsaved] at hafter hkept
        exact hafter.put hkey (hkept (by simp))
      next storage fault hfailed =>
        rw [hfailed] at hafter
        exact hafter
      next storage hstopped =>
        rw [hstopped] at hafter hkept
        exact hafter.put hkey (hkept (by simp))

theorem Orderly.change (h : store.Orderly good) (hlasting : Database.Lasting good)
    (hsimple : Name.Simple name) {change : Change}
    (hnames : ∀ name ∈ change.mentioned, Token.Named name) :
    (store.change name change).1.Orderly good := by
  rw [change_eq]
  exact (h.fetch hsimple).1.replace fun _ => h.changed hlasting hsimple hnames

theorem Orderly.query (h : store.Orderly good) (hsimple : Name.Simple name) (query : Query) :
    (store.query name query).1.Orderly good := by
  rw [query_eq]
  exact (h.fetch hsimple).1

end Store

/-! ## Sessions -/

namespace Session

variable {good : Database → Prop} {session : Session} {store : Store}

theorem orderly_withCurrent (h : store.Orderly good) (hcurrent : session.CurrentSimple)
    {action : String → Store × Outcome}
    (haction : ∀ name, Name.Simple name → (action name).1.Orderly good) :
    (session.withCurrent store action).1.Orderly good := by
  unfold withCurrent
  split
  next name hname => exact haction name (hcurrent name hname)
  · exact h

theorem orderly_execute (h : store.Orderly good) (hlasting : Database.Lasting good)
    (hcurrent : session.CurrentSimple) {command : Command}
    (hnames : ∀ name ∈ command.mentioned, Token.Named name) :
    (session.execute store command).2.1.Orderly good := by
  cases command with
  | use name =>
      obtain ⟨hloaded, -⟩ := h.fetch (Name.simple_of_named (hnames name (.head _)))
      unfold execute
      simp only
      split
      next hfetch =>
        rw [hfetch] at hloaded
        exact hloaded
      next hfetch =>
        rw [hfetch] at hloaded
        exact hloaded
  | createDatabase name =>
      exact h.createDatabase hlasting (Name.simple_of_named (hnames name (.head _)))
  | dropDatabase name =>
      rw [execute_dropDatabase]
      exact h.dropDatabase
  | change change =>
      exact orderly_withCurrent h hcurrent fun _ hsimple => h.change hlasting hsimple hnames
  | query query =>
      exact orderly_withCurrent h hcurrent fun _ hsimple => h.query hsimple query

/-- A line keeps the store orderly, whether it is a command or not. -/
theorem orderly_run (h : store.Orderly good) (hlasting : Database.Lasting good)
    (hcurrent : session.CurrentSimple) (line : String) :
    (session.run store line).2.1.Orderly good := by
  unfold run
  split
  next command hcommand =>
    exact orderly_execute h hlasting hcurrent fun _ => Command.named_of_ofLine hcommand
  · exact h

end Session

/-! ## Histories -/

namespace Service

/-- The store is orderly, and the databases that are chosen have simple names. -/
structure Orderly (good : Database → Prop) (service : Service) : Prop where
  store : service.store.Orderly good
  simple : ∀ number, (service.sessions number).CurrentSimple

variable {good : Database → Prop} {service : Service}

theorem orderly_create {storage : Storage} (h : storage.Orderly good) :
    (create storage).Orderly good := by
  refine ⟨⟨fun key database hfound => ?_, h⟩, fun _ => Session.currentSimple_create⟩
  simp [create, Store.create] at hfound

theorem Orderly.line (h : service.Orderly good) (hlasting : Database.Lasting good)
    (number : Nat) (text : String) : (service.line number text).1.Orderly good := by
  refine ⟨Session.orderly_run h.store hlasting (h.simple number) text, fun other => ?_⟩
  simp only [Service.line]
  split
  · exact (h.simple number).run text
  · exact h.simple other

theorem Orderly.fail (h : service.Orderly good) (faults : Storage.Faults) :
    (service.fail faults).Orderly good := by
  unfold Service.fail
  split
  next before hmode =>
    have hkeeps {database : Database} (hkept : service.store.storage.mode.Keeps good database) :
        Storage.Mode.Keeps good (.folder faults) database :=
      ⟨hkept.simple, fun _ _ => hkept.fits before hmode, hkept.good⟩
    refine ⟨⟨fun key database hfound => ?_, fun path entry hentry => ?_⟩, h.simple⟩
    · obtain ⟨hkey, hkept⟩ := h.store.inUse key database hfound
      exact ⟨hkey, hkeeps hkept⟩
    · obtain ⟨database, hpath, hdocument, hkept⟩ := h.store.stored path entry hentry
      exact ⟨database, hpath, hdocument, hkeeps hkept⟩
  · exact h

theorem Orderly.handle (h : service.Orderly good) (hlasting : Database.Lasting good)
    (event : Event) : (service.handle event).1.Orderly good := by
  cases event with
  | line number text => exact h.line hlasting number text
  | fail faults => exact h.fail faults
  | restart => exact orderly_create h.store.stored

/-- Whatever happens to an orderly service, it stays orderly. -/
theorem Orderly.handleAll (h : service.Orderly good) (hlasting : Database.Lasting good)
    (events : List Event) : (service.handleAll events).1.Orderly good := by
  induction events generalizing service with
  | nil => exact h
  | cons event rest ih => exact ih (h.handle hlasting event)

/-- A service that starts with an empty folder is orderly throughout its history. -/
theorem orderly_of_history (hlasting : Database.Lasting good) (mode : Storage.Mode)
    (path : String) (history : List Event) :
    ((create { mode, folder := .create path }).handleAll history).1.Orderly good :=
  (orderly_create (.create mode path)).handleAll hlasting history

end Service

end Rowbase
