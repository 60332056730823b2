import Rowbase.Proofs.DocumentRoundTrip
import Rowbase.Proofs.SimpleNames
import Rowbase.Proofs.TransientStores

/-!
# A folder and its image in memory

A store over a folder mirrors a store in memory when the folder holds the documents of exactly
the databases of the latter, and those in use are among them. Each operation either fails for
the storage and leaves the image as it is, or does the same on both sides.
-/

namespace Rowbase

/-- A database that a folder can keep under the given key. -/
structure Database.Keepable (key : String) (database : Database) : Prop where
  key : key = Name.key database.name
  simple : Name.Simple database.name
  fits : (Storage.draftName database.name).utf8ByteSize ≤ Folder.nameLimit
  wellFormed : database.WellFormed

/-- A store over a folder, and the store in memory that it stands for. -/
structure Store.Mirrors (store image : Store) : Prop where
  folder : ∃ faults, store.storage.mode = .folder faults
  memory : image.storage.mode = .memory
  inUse : ∀ key database, store.databases.find? key = some database →
    image.databases.find? key = some database
  keepable : ∀ key database, image.databases.find? key = some database → database.Keepable key
  /-- Every database of the image has its document in the folder. -/
  stored : ∀ key database, image.databases.find? key = some database →
    store.storage.folder.entries.find? (Storage.fileName key) =
      some (Storage.document database)
  /-- The folder has no other entries. -/
  nothingElse : ∀ path entry, store.storage.folder.entries.find? path = some entry →
    ∃ key database, image.databases.find? key = some database ∧ path = Storage.fileName key ∧
      entry = Storage.document database

namespace Store.Mirrors

variable {store image : Store} {name : String}

theorem transient (h : store.Mirrors image) : image.storage.Transient := by
  intro faults hmode
  rw [h.memory] at hmode
  simp at hmode

theorem flat (h : store.Mirrors image) : store.storage.folder.Flat := by
  intro path hpath
  obtain ⟨key, database, -, -, hentry⟩ := h.nothingElse path _ hpath
  simp [Storage.document] at hentry

theorem key_key (h : store.Mirrors image) {key : String} {database : Database}
    (hfound : image.databases.find? key = some database) : Name.key key = key := by
  rw [(h.keepable _ _ hfound).key, Name.key_key]

/-- The document of a name is there exactly if the image has the database. -/
theorem find?_fileName (h : store.Mirrors image) (name : String) :
    store.storage.folder.entries.find? (Storage.fileName name) =
      (image.databases.find? (Name.key name)).map Storage.document := by
  cases hfound : image.databases.find? (Name.key name) with
  | some database =>
      have hstored := h.stored _ _ hfound
      rwa [Storage.fileName_key] at hstored
  | none =>
      cases hentry : store.storage.folder.entries.find? (Storage.fileName name) with
      | none => rfl
      | some entry =>
          obtain ⟨key, database, hkey, hpath, -⟩ := h.nothingElse _ _ hentry
          rw [Storage.key_eq_of_fileName_eq hpath, h.key_key hkey, hkey] at hfound
          simp at hfound

/-- The name of a document that the image has is not too long. -/
theorem locate_of_found (h : store.Mirrors image) (hsimple : Name.Simple name)
    {database : Database} (hfound : image.databases.find? (Name.key name) = some database)
    (folder : Folder) : folder.locate (Storage.fileName name) = .ok (Storage.fileName name) := by
  have hkeepable := h.keepable _ _ hfound
  have hnames : Storage.fileName database.name = Storage.fileName name := by
    rw [← Storage.fileName_key database.name, ← hkeepable.key, Storage.fileName_key]
  have hsize := Storage.utf8ByteSize_fileName_le database.name
  have hfits := hkeepable.fits
  rw [hnames] at hsize
  rw [Storage.locate_fileName hsimple, if_neg (by omega)]

/-! ## What the storage knows -/

theorem read_of_found (h : store.Mirrors image) (hsimple : Name.Simple name)
    {database : Database} (hfound : image.databases.find? (Name.key name) = some database) :
    store.storage.folder.read (Storage.fileName name) = .ok database.write.toUTF8 := by
  rw [Folder.read_of_locate (h.locate_of_found hsimple hfound _), h.find?_fileName, hfound]
  rfl

theorem read_of_not_found (h : store.Mirrors image) (hsimple : Name.Simple name)
    (hnone : image.databases.find? (Name.key name) = none) :
    store.storage.folder.read (Storage.fileName name) = .error .refused ∨
      store.storage.folder.read (Storage.fileName name) = .error .missing := by
  by_cases hlong : Folder.nameLimit < (Storage.fileName name).utf8ByteSize
  · left
    apply Folder.read_of_locate_error
    rw [Storage.locate_fileName hsimple, if_pos hlong]
  · right
    have hlocate : store.storage.folder.locate (Storage.fileName name) =
        .ok (Storage.fileName name) := by
      rw [Storage.locate_fileName hsimple, if_neg hlong]
    rw [Folder.read_of_locate hlocate, h.find?_fileName, hnone]
    rfl

theorem storage_holds (h : store.Mirrors image) (hsimple : Name.Simple name) :
    store.storage.holds name = image.databases.contains (Name.key name) := by
  obtain ⟨faults, hmode⟩ := h.folder
  rw [Storage.holds, hmode, NameMap.contains]
  simp only [Folder.isFile]
  cases hfound : image.databases.find? (Name.key name) with
  | some database => rw [h.read_of_found hsimple hfound]; rfl
  | none => rcases h.read_of_not_found hsimple hfound with hread | hread <;> rw [hread] <;> rfl

/-- A name is taken in the store exactly if it is taken in the image. -/
theorem holds (h : store.Mirrors image) (hsimple : Name.Simple name) :
    store.holds name = image.databases.contains (Name.key name) := by
  rw [Store.holds, h.storage_holds hsimple, NameMap.contains, NameMap.contains]
  cases hfound : store.databases.find? (Name.key name) with
  | none => rfl
  | some database => rw [h.inUse _ _ hfound]; rfl

/-- What is loaded is what the image has, unless the storage fails. -/
theorem load (h : store.Mirrors image) (hsimple : Name.Simple name) :
    (∃ fault, store.storage.load name = .error fault) ∨
      store.storage.load name = .ok (image.databases.find? (Name.key name)) := by
  obtain ⟨faults, hmode⟩ := h.folder
  unfold Storage.load
  simp only [hmode]
  split
  · exact .inl ⟨_, rfl⟩
  · cases hfound : image.databases.find? (Name.key name) with
    | some database =>
        right
        rw [h.read_of_found hsimple hfound]
        simp only [Storage.decode_write (h.keepable _ _ hfound).wellFormed]
        rfl
    | none =>
        rcases h.read_of_not_found hsimple hfound with hread | hread
        · rw [hread]
          exact .inl ⟨_, rfl⟩
        · rw [hread]
          exact .inr rfl

/-! ## What operations do on both sides -/

/-- A database of the image may be in use. -/
theorem put (h : store.Mirrors image) {database : Database}
    (hfound : image.databases.find? (Name.key name) = some database) :
    (store.put name database).Mirrors image := by
  refine ⟨h.folder, h.memory, ?_, h.keepable, h.stored, h.nothingElse⟩
  intro key other hother
  simp only [Store.put, NameMap.find?_insert] at hother
  split at hother
  next heq => rw [← heq, hfound, ← hother]
  · exact h.inUse key other hother

/-- A database is fetched on both sides alike, unless the storage fails. -/
theorem fetch (h : store.Mirrors image) (hsimple : Name.Simple name) :
    (∃ fault, store.fetch name = (store, .error (.storage fault))) ∨
      ∃ loaded, loaded.Mirrors image ∧
        store.fetch name = (loaded, match image.databases.find? (Name.key name) with
          | some database => .ok database
          | none => .error (.unknownDatabase name)) := by
  unfold Store.fetch
  cases hused : store.databases.find? (Name.key name) with
  | some database =>
      right
      exact ⟨store, h, by rw [h.inUse _ _ hused]⟩
  | none =>
      rcases h.load hsimple with ⟨fault, hload⟩ | hload
      · left
        exact ⟨fault, by rw [hload]⟩
      · right
        rw [hload]
        cases hfound : image.databases.find? (Name.key name) with
        | none => exact ⟨store, h, rfl⟩
        | some database => exact ⟨store.put name database, h.put hfound, rfl⟩

theorem find?_draftName (h : store.Mirrors image) (other : String) :
    store.storage.folder.entries.find? (Storage.draftName other) = none := by
  cases hentry : store.storage.folder.entries.find? (Storage.draftName other) with
  | none => rfl
  | some entry =>
      obtain ⟨key, database, -, hpath, -⟩ := h.nothingElse _ _ hentry
      exact absurd hpath (Storage.draftName_ne_fileName other key)

/-- Stores that differ from mirrored ones only in what they know of one name mirror each other,
if the folder agrees on that name. -/
theorem updated (h : store.Mirrors image) {after imageAfter : Store} {entry : Option Database}
    (hfolder : ∃ faults, after.storage.mode = .folder faults)
    (hmemory : imageAfter.storage.mode = .memory)
    (hkeepable : ∀ database, entry = some database → database.Keepable (Name.key name))
    (hused : ∀ key, after.databases.find? key =
      if Name.key name = key then entry else store.databases.find? key)
    (himage : ∀ key, imageAfter.databases.find? key =
      if Name.key name = key then entry else image.databases.find? key)
    (hfiles : ∀ path, after.storage.folder.entries.find? path =
      if Storage.fileName name = path then entry.map Storage.document
      else store.storage.folder.entries.find? path) :
    after.Mirrors imageAfter := by
  refine ⟨hfolder, hmemory, ?_, ?_, ?_, ?_⟩
  · intro key database hfound
    rw [hused] at hfound
    rw [himage]
    split at hfound
    next heq => rw [if_pos heq, hfound]
    next hne => rw [if_neg hne, h.inUse key database hfound]
  · intro key database hfound
    rw [himage] at hfound
    split at hfound
    next heq => exact heq ▸ hkeepable database hfound
    · exact h.keepable key database hfound
  · intro key database hfound
    rw [himage] at hfound
    rw [hfiles]
    split at hfound
    next heq =>
      rw [← heq, Storage.fileName_key, if_pos rfl, hfound]
      rfl
    next hne =>
      rw [if_neg, h.stored key database hfound]
      intro hfile
      apply hne
      rw [Storage.key_eq_of_fileName_eq hfile, h.key_key hfound]
  · intro path file hfile
    rw [hfiles] at hfile
    split at hfile
    next hpath =>
      obtain ⟨database, hentry, rfl⟩ := Option.map_eq_some_iff.mp hfile
      refine ⟨Name.key name, database, ?_, ?_, rfl⟩
      · rw [himage, if_pos rfl, hentry]
      · rw [Storage.fileName_key, hpath]
    next hother =>
      obtain ⟨key, database, hfound, rfl, hentry⟩ := h.nothingElse path file hfile
      refine ⟨key, database, ?_, rfl, hentry⟩
      rw [himage, if_neg, hfound]
      rintro rfl
      exact hother (Storage.fileName_key name).symm

/-- A database is saved on both sides, unless the storage fails and is left as it was. -/
theorem save (h : store.Mirrors image) {database : Database}
    (hsimple : Name.Simple database.name) (hwell : database.WellFormed)
    (hname : Name.key name = Name.key database.name) :
    (∃ fault, store.storage.save database = (store.storage, .failed fault)) ∨
      ∃ storage, store.storage.save database = (storage, .saved) ∧
        ({ store with storage }.put name database).Mirrors (image.put name database) := by
  obtain ⟨faults, hmode⟩ := h.folder
  rw [Storage.save_of_simple hmode h.flat hsimple]
  split
  · exact .inl ⟨_, rfl⟩
  · split
    · exact .inl ⟨_, rfl⟩
    next hfits =>
      right
      have hkeepable (other : Database) (hother : some database = some other) :
          other.Keepable (Name.key name) := by
        cases hother
        exact ⟨hname, hsimple, Nat.le_of_not_lt hfits, hwell⟩
      refine ⟨_, rfl, h.updated ⟨faults, hmode⟩ h.memory hkeepable ?_ ?_ ?_⟩
      · exact fun key => NameMap.find?_insert ..
      · exact fun key => NameMap.find?_insert ..
      · intro path
        simp only [Store.put]
        rw [Storage.find?_savedFolder, Storage.fileName_congr hname.symm]
        split
        · rfl
        · split
          next hdraft => rw [← hdraft, h.find?_draftName]
          · rfl

/-- A database is removed on both sides, unless the storage fails. -/
theorem remove (h : store.Mirrors image) (hsimple : Name.Simple name) {database : Database}
    (hfound : image.databases.find? (Name.key name) = some database) :
    (∃ fault, store.storage.remove name = .error fault) ∨
      ∃ storage, store.storage.remove name = .ok storage ∧
        Mirrors { databases := store.databases.erase (Name.key name), storage }
          { image with databases := image.databases.erase (Name.key name) } := by
  obtain ⟨faults, hmode⟩ := h.folder
  have hremove : store.storage.folder.remove (Storage.fileName name) =
      .ok { store.storage.folder with
        entries := store.storage.folder.entries.erase (Storage.fileName name) } := by
    rw [Folder.remove, h.read_of_found hsimple hfound, ok_bind,
      h.locate_of_found hsimple hfound, ok_bind]
    rfl
  unfold Storage.remove
  rw [hmode]
  simp only [hremove]
  split
  · exact .inl ⟨_, rfl⟩
  · right
    have hkeepable (other : Database) (hother : none = some other) :
        other.Keepable (Name.key name) := by
      cases hother
    refine ⟨_, rfl, h.updated ⟨faults, rfl⟩ h.memory hkeepable ?_ ?_ ?_⟩
    · exact fun key => NameMap.find?_erase ..
    · exact fun key => NameMap.find?_erase ..
    · exact fun path => NameMap.find?_erase ..

end Store.Mirrors

/-- The command failed for the storage. -/
def Outcome.lost : Outcome → Bool
  | .failed error => error.isStorage
  | _ => false

/-! ## Commands on both sides -/

namespace Store

/-- An operation on a store that mirrors an image has failed for the storage and the image is
mirrored as before, or it has done the same as the operation on the image. -/
structure Agrees (result : Store × Outcome) (image : Store) (ideal : Store × Outcome) : Prop where
  lost : result.2.lost = true → result.1.Mirrors image
  kept : result.2.lost = false → result.2 = ideal.2 ∧ result.1.Mirrors ideal.1

variable {store image : Store} {name : String}

theorem Mirrors.agrees_failed (h : store.Mirrors image) (error : Error) :
    Agrees (store, .failed error) image (image, .failed error) :=
  ⟨fun _ => h, fun _ => ⟨rfl, h⟩⟩

theorem Mirrors.agrees_lost (h : store.Mirrors image) (fault : StorageFault)
    (ideal : Store × Outcome) : Agrees (store, .failed (.storage fault)) image ideal :=
  ⟨fun _ => h, fun hkept => by simp [Outcome.lost, Error.isStorage] at hkept⟩

theorem Mirrors.agrees_of_eq {result ideal : Store × Outcome}
    (houtcome : result.2 = ideal.2) (hlost : result.2.lost = false)
    (h : result.1.Mirrors ideal.1) : Agrees result image ideal :=
  ⟨fun hlost' => by simp [hlost] at hlost', fun _ => ⟨houtcome, h⟩⟩

namespace Mirrors

theorem stops_eq_false (h : store.Mirrors image) : image.storage.stops = false := by
  simp [Storage.stops, h.memory]

theorem createDatabase (h : store.Mirrors image) (hsimple : Name.Simple name) :
    Agrees (store.createDatabase name) image (image.createDatabase name) := by
  rw [createDatabase_transient h.transient, h.stops_eq_false, Store.createDatabase,
    h.holds hsimple]
  split
  · exact h.agrees_failed _
  · have hcreated : Name.Simple (Database.create name).name := hsimple
    rcases h.save hcreated (Database.WellFormed.create name) rfl with
      ⟨fault, hsave⟩ | ⟨storage, hsave, hafter⟩
    · simp only [hsave]
      exact h.agrees_lost fault _
    · simp only [hsave]
      exact agrees_of_eq rfl rfl hafter

theorem dropDatabase (h : store.Mirrors image) (hsimple : Name.Simple name) :
    Agrees (store.dropDatabase name) image (image.dropDatabase name) := by
  rw [dropDatabase_transient h.transient, Store.dropDatabase, h.holds hsimple]
  split
  next hheld =>
    obtain ⟨database, hfound⟩ := Option.isSome_iff_exists.mp hheld
    rcases h.remove hsimple hfound with ⟨fault, hremove⟩ | ⟨storage, hremove, hafter⟩
    · rw [hremove]
      exact h.agrees_lost fault _
    · rw [hremove]
      exact agrees_of_eq rfl rfl hafter
  · exact h.agrees_failed _

/-- A change with room for it is made and saved on both sides, or undone. -/
theorem change (h : store.Mirrors image) (hsimple : Name.Simple name) {change : Change}
    (hroom : ∀ database, (store.fetch name).2 = .ok database → database.hasRoom change) :
    Agrees (store.change name change) image (image.change name change) := by
  unfold Store.change
  rcases h.fetch hsimple with ⟨fault, hfetch⟩ | ⟨loaded, hloaded, hfetch⟩
  · rw [hfetch]
    exact h.agrees_lost fault _
  · rw [hfetch] at hroom ⊢
    rw [fetch_transient h.transient]
    cases hfound : image.databases.find? (Name.key name) with
    | none => exact hloaded.agrees_failed _
    | some database =>
        rw [hfound] at hroom
        simp only
        cases hchange : database.change change with
        | error error => exact hloaded.agrees_failed error
        | ok changed =>
            have hkeepable := h.keepable _ _ hfound
            have hname : changed.name = database.name :=
              (Database.step_of_change hchange).name
            have hwell := hkeepable.wellFormed.of_change (hroom database rfl) hchange
            have hkey : Name.key name = Name.key changed.name := by rw [hname, hkeepable.key]
            simp only [h.transient.save, h.stops_eq_false, Bool.false_eq_true, if_false]
            rcases hloaded.save (hname ▸ hkeepable.simple) hwell hkey with
              ⟨fault, hsave⟩ | ⟨storage, hsave, hafter⟩
            · simp only [hsave]
              exact hloaded.agrees_lost fault _
            · simp only [hsave]
              exact agrees_of_eq rfl rfl hafter

theorem query (h : store.Mirrors image) (hsimple : Name.Simple name) (query : Query) :
    Agrees (store.query name query) image (image.query name query) := by
  unfold Store.query
  rcases h.fetch hsimple with ⟨fault, hfetch⟩ | ⟨loaded, hloaded, hfetch⟩
  · rw [hfetch]
    exact h.agrees_lost fault _
  · rw [hfetch, fetch_transient h.transient]
    cases hfound : image.databases.find? (Name.key name) with
    | none => exact hloaded.agrees_failed _
    | some database =>
        simp only
        cases hquery : database.query query with
        | error error => exact hloaded.agrees_failed error
        | ok listing => exact agrees_of_eq rfl rfl hloaded

end Mirrors

end Store

end Rowbase
