import Rowbase.Proofs.DocumentRoundTrip
import Rowbase.Proofs.SimpleNames

/-!
# Saves into any folder

Whatever directories a folder has, and wherever the name of a database leads, a save makes no
difference but at two places: the draft of the database and its file. A draft that is written
takes the place of the file, or the save fails and the file is as before.
-/

namespace Rowbase

namespace Folder

/-! ## Directories -/

/-- Folders with the same directories. -/
structure SameDirectories (before after : Folder) : Prop where
  path : after.path = before.path
  directories : ∀ place, after.entries.find? place = some .directory ↔
    before.entries.find? place = some .directory

variable {before after later folder : Folder} {directory : List String}
variable {name path newPath place : String} {entry : Entry}

namespace SameDirectories

theorem refl (folder : Folder) : SameDirectories folder folder :=
  ⟨rfl, fun _ => Iff.rfl⟩

theorem symm (h : SameDirectories before after) : SameDirectories after before :=
  ⟨h.path.symm, fun place => (h.directories place).symm⟩

theorem trans (h : SameDirectories before after) (h' : SameDirectories after later) :
    SameDirectories before later :=
  ⟨h'.path.trans h.path, fun place => (h'.directories place).trans (h.directories place)⟩

/-- Files come and go without a change to the directories. -/
theorem insert_file (h : folder.entries.find? place ≠ some .directory) (bytes : ByteArray) :
    SameDirectories folder
      { folder with entries := folder.entries.insert place (.file bytes) } := by
  refine ⟨rfl, fun other => ?_⟩
  simp only [NameMap.find?_insert]
  split
  next heq =>
    rw [heq] at h
    simp [h]
  · rfl

theorem erase_file (h : folder.entries.find? place ≠ some .directory) :
    SameDirectories folder { folder with entries := folder.entries.erase place } := by
  refine ⟨rfl, fun other => ?_⟩
  simp only [NameMap.find?_erase]
  split
  next heq =>
    rw [heq] at h
    simp [h]
  · rfl

theorem enter (h : SameDirectories before after) {found : List String}
    (henter : before.enter directory name = .ok found) :
    after.enter directory name = .ok found := by
  unfold Folder.enter at henter ⊢
  split at henter
  next hhere => rw [if_pos hhere, henter]
  next hhere =>
    rw [if_neg hhere]
    split at henter
    next habove => rw [if_pos habove, henter]
    next habove =>
      rw [if_neg habove]
      split at henter
      · simp at henter
      next hlong =>
        rw [if_neg hlong]
        split at henter
        next hdirectory => rw [(h.directories _).mpr hdirectory, henter]
        · simp at henter
        · simp at henter

/-- A path leads to the same place as long as the directories on the way are there. -/
theorem locate (h : SameDirectories before after) (hlocate : before.locate path = .ok place) :
    after.locate path = .ok place := by
  unfold Folder.locate at hlocate ⊢
  simp only at hlocate ⊢
  split at hlocate
  · simp at hlocate
  next hnul =>
    rw [if_neg hnul]
    obtain ⟨directory, hfold, hplace⟩ := bind_eq_ok_iff.mp hlocate
    exact bind_eq_ok_iff.mpr
      ⟨directory, foldlM_eq_ok_of_imp (fun _ _ _ => h.enter) hfold, hplace⟩

theorem locate_iff (h : SameDirectories before after) :
    after.locate path = .ok place ↔ before.locate path = .ok place :=
  ⟨h.symm.locate, h.locate⟩

end SameDirectories

/-! ## Files that are removed and renamed -/

theorem remove_eq_ok_iff :
    folder.remove path = .ok after ↔
      ∃ place bytes, folder.locate path = .ok place ∧
        folder.entries.find? place = some (.file bytes) ∧
          after = { folder with entries := folder.entries.erase place } := by
  unfold remove
  rw [bind_eq_ok_iff]
  constructor
  · rintro ⟨bytes, hread, hremoved⟩
    obtain ⟨place, hplace, hfound⟩ := read_eq_ok_iff.mp hread
    rw [hplace, ok_bind] at hremoved
    cases hremoved
    exact ⟨place, bytes, hplace, hfound, rfl⟩
  · rintro ⟨place, bytes, hplace, hfound, rfl⟩
    refine ⟨bytes, read_eq_ok_iff.mpr ⟨place, hplace, hfound⟩, ?_⟩
    rw [hplace, ok_bind]
    rfl

/-- A file that is renamed leaves its place for the other, where no directory stands. -/
theorem exists_of_rename (h : folder.rename path newPath = .ok after) :
    ∃ place bytes newPlace, folder.locate path = .ok place ∧
      folder.entries.find? place = some (.file bytes) ∧ folder.locate newPath = .ok newPlace ∧
        folder.entries.find? newPlace ≠ some .directory ∧
          after = { folder with
            entries := (folder.entries.erase place).insert newPlace (.file bytes) } := by
  obtain ⟨bytes, hread, h⟩ := bind_eq_ok_iff.mp h
  obtain ⟨removed, hremoved, hwritten⟩ := bind_eq_ok_iff.mp h
  obtain ⟨place, hplace, hfound⟩ := read_eq_ok_iff.mp hread
  obtain ⟨other, _, hother, -, rfl⟩ := remove_eq_ok_iff.mp hremoved
  rw [hplace] at hother
  cases hother
  have hfile : folder.entries.find? place ≠ some .directory := by simp [hfound]
  have hsame := SameDirectories.erase_file hfile
  obtain ⟨newPlace, hnewPlace, hfree, hafter⟩ := put_eq_ok_iff.mp hwritten
  exact ⟨place, bytes, newPlace, hplace, hfound, hsame.locate_iff.mp hnewPlace,
    mt (hsame.directories newPlace).mpr hfree, hafter⟩

theorem rename_of_locate {bytes : ByteArray} {newPlace : String}
    (hplace : folder.locate path = .ok place)
    (hfound : folder.entries.find? place = some (.file bytes))
    (hnewPlace : folder.locate newPath = .ok newPlace)
    (hfree : folder.entries.find? newPlace ≠ some .directory) :
    folder.rename path newPath =
      .ok { folder with
        entries := (folder.entries.erase place).insert newPlace (.file bytes) } := by
  have hfile : folder.entries.find? place ≠ some .directory := by simp [hfound]
  have hsame := SameDirectories.erase_file hfile
  have hread := read_eq_ok_iff.mpr ⟨place, hplace, hfound⟩
  have hremove := remove_eq_ok_iff.mpr ⟨place, bytes, hplace, hfound, rfl⟩
  rw [rename, hread, ok_bind, hremove, ok_bind]
  exact put_eq_ok_iff.mpr
    ⟨newPlace, hsame.locate hnewPlace, mt (hsame.directories newPlace).mp hfree, rfl⟩

end Folder

namespace Storage

variable {before after later folder : Folder} {database : Database} {storage : Storage}
variable {name other : String}

/-! ## What a save touches -/

/-- Folders that differ at most in the file of a database's name and in its draft. -/
structure OnlySaved (name : String) (before after : Folder) : Prop
    extends Folder.SameDirectories before after where
  others : ∀ place, before.locate (fileName name) ≠ .ok place →
    before.locate (draftName name) ≠ .ok place →
      after.entries.find? place = before.entries.find? place

theorem OnlySaved.refl (name : String) (folder : Folder) : OnlySaved name folder folder :=
  ⟨.refl folder, fun _ _ _ => rfl⟩

theorem OnlySaved.trans (h : OnlySaved name before after) (h' : OnlySaved name after later) :
    OnlySaved name before later := by
  refine ⟨h.toSameDirectories.trans h'.toSameDirectories, fun place hfile hdraft => ?_⟩
  have hsame := h.toSameDirectories
  rw [h'.others place (mt hsame.locate_iff.mp hfile) (mt hsame.locate_iff.mp hdraft)]
  exact h.others place hfile hdraft

/-- The file of a name is not the draft of any. -/
theorem draft_ne_file {place draft : String} (hplace : before.locate (fileName name) = .ok place)
    (hdraft : before.locate (draftName other) = .ok draft) : draft ≠ place :=
  ne_of_suffix_draft (Folder.suffix_of_locate (by decide) (suffix_fileName name) hplace)
    (Folder.suffix_of_locate (by decide) (suffix_draftName other) hdraft)

/-- Writes a document to the file of a name by way of the draft. -/
def writeIn (folder : Folder) (name document : String) : Folder × Saving :=
  match folder.write (draftName name) document.toUTF8 with
  | .error fault => (folder, .failed (faultOf fault))
  | .ok drafted =>
    match drafted.rename (draftName name) (fileName name) with
    | .error fault => (drafted, .failed (faultOf fault))
    | .ok saved => (saved, .saved)

theorem saveIn_eq_writeIn (folder : Folder) (database : Database) :
    saveIn folder database = writeIn folder database.name database.write :=
  rfl

/-- What becomes of a document. It is written to the draft or that fails, and the draft becomes the
file or that fails. -/
theorem writeIn_cases (folder : Folder) (name document : String) :
    (∃ fault, writeIn folder name document = (folder, .failed fault)) ∨
      ∃ draft, folder.locate (draftName name) = .ok draft ∧
        folder.entries.find? draft ≠ some .directory ∧
        ((∃ fault, writeIn folder name document =
            ({ folder with entries := folder.entries.insert draft (.file document.toUTF8) },
              .failed fault)) ∨
          ∃ place, folder.locate (fileName name) = .ok place ∧
            folder.entries.find? place ≠ some .directory ∧
            writeIn folder name document =
              ({ folder with
                  entries := ((folder.entries.insert draft (.file document.toUTF8)).erase
                    draft).insert place (.file document.toUTF8) }, .saved)) := by
  unfold writeIn
  split
  next fault _ => exact .inl ⟨_, rfl⟩
  next drafted hdrafted =>
    obtain ⟨draft, hdraft, hfree, rfl⟩ := Folder.put_eq_ok_iff.mp hdrafted
    refine .inr ⟨draft, hdraft, hfree, ?_⟩
    have hsame := Folder.SameDirectories.insert_file hfree document.toUTF8
    split
    next fault _ => exact .inl ⟨_, rfl⟩
    next saved hsaved =>
      obtain ⟨written, bytes, place, hwritten, hbytes, hplace, hdirectory, rfl⟩ :=
        Folder.exists_of_rename hsaved
      rw [hsame.locate hdraft] at hwritten
      cases hwritten
      rw [NameMap.find?_insert, if_pos rfl] at hbytes
      cases hbytes
      exact .inr ⟨place, hsame.locate_iff.mp hplace, mt (hsame.directories place).mpr hdirectory,
        rfl⟩

/-- Whatever becomes of a document, no other places are touched. -/
theorem onlySaved_writeIn (folder : Folder) (name document : String) :
    OnlySaved name folder (writeIn folder name document).1 := by
  rcases writeIn_cases folder name document with
    ⟨fault, hsave⟩ | ⟨draft, hdraft, hfree, ⟨fault, hsave⟩ | ⟨place, hplace, hdirectory, hsave⟩⟩
  · rw [hsave]
    exact .refl _ folder
  · rw [hsave]
    refine ⟨.insert_file hfree _, fun other _ hother => ?_⟩
    have hne : draft ≠ other := fun heq => hother (heq ▸ hdraft)
    simp [hne]
  · rw [hsave]
    refine ⟨⟨rfl, fun other => ?_⟩, fun other hfile hother => ?_⟩
    · simp only [NameMap.find?_insert, NameMap.find?_erase]
      split
      next heq =>
        rw [heq] at hdirectory
        simp [hdirectory]
      · split
        next heq =>
          rw [heq] at hfree
          simp [hfree]
        · rfl
    · have hplaceNe : place ≠ other := fun heq => hfile (heq ▸ hplace)
      have hdraftNe : draft ≠ other := fun heq => hother (heq ▸ hdraft)
      simp [hplaceNe, hdraftNe]

/-- A document that takes its place stands in the file, wherever that is. -/
theorem exists_of_writeIn {document : String} {written : Folder}
    (h : writeIn folder name document = (written, .saved)) :
    ∃ place, folder.locate (fileName name) = .ok place ∧
      written.entries.find? place = some (.file document.toUTF8) := by
  rcases writeIn_cases folder name document with
    ⟨_, hsave⟩ | ⟨draft, -, -, ⟨_, hsave⟩ | ⟨place, hplace, -, hsave⟩⟩
  · simp [hsave] at h
  · simp [hsave] at h
  · rw [hsave] at h
    cases h
    exact ⟨place, hplace, by simp⟩

theorem onlySaved_save (storage : Storage) (database : Database) :
    (storage.save database).1.mode = storage.mode ∧
      OnlySaved database.name storage.folder (storage.save database).1.folder := by
  unfold save
  split
  · exact ⟨rfl, .refl _ _⟩
  · exact ⟨rfl, .refl _ _⟩
  · split
    · exact ⟨rfl, .refl _ _⟩
    · exact ⟨rfl, onlySaved_writeIn storage.folder database.name database.write⟩

/-- A save that succeeds leaves the document in the file, wherever that is. -/
theorem exists_of_save_saved {faults : Faults} (hmode : storage.mode = .folder faults)
    {after : Storage} (h : storage.save database = (after, .saved)) :
    ∃ place, storage.folder.locate (fileName database.name) = .ok place ∧
      after.folder.entries.find? place = some (document database) := by
  unfold save at h
  simp only [hmode, saveIn_eq_writeIn] at h
  split at h
  · simp at h
  · cases hwrite : writeIn storage.folder database.name database.write with
    | mk written saving =>
        rw [hwrite] at h
        cases h
        exact exists_of_writeIn hwrite

theorem save_ne_stopped {faults : Faults} (hmode : storage.mode = .folder faults)
    (database : Database) : (storage.save database).2 ≠ .stopped := by
  unfold save
  simp only [hmode, saveIn_eq_writeIn]
  split
  · simp
  · rcases writeIn_cases storage.folder database.name database.write with
      ⟨_, hsave⟩ | ⟨_, -, -, ⟨_, hsave⟩ | ⟨_, -, -, hsave⟩⟩
    all_goals simp [hsave]

end Storage

end Rowbase
