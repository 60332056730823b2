import Rowbase.Proofs.LoadedDatabases

/-!
# Saved databases

A database that is saved to a folder is loaded as it was, under every spelling of its name, and
what is stored under other names is as before. The order in which the document has the tables
makes no difference to this, nor to whether the save succeeds.
-/

namespace Rowbase

namespace Folder

variable {folder other : Folder} {path place : String}

/-- Where a name without a slash leads does not depend on what is in the folder. -/
theorem locate_congr (hslash : '/' ∉ path.toList) : folder.locate path = other.locate path := by
  by_cases hnul : '\x00' ∈ path.toList
  · unfold locate
    simp only [if_pos hnul]
    rfl
  · rw [locate_of_plain hslash hnul, locate_of_plain hslash hnul]

theorem eq_of_locate (hslash : '/' ∉ path.toList) (h : folder.locate path = .ok place) :
    place = path := by
  have hnul : '\x00' ∉ path.toList := by
    intro hnul
    unfold locate at h
    simp only [if_pos hnul] at h
    cases h
  rw [locate_of_plain hslash hnul] at h
  split at h
  · cases h
  · exact (Except.ok.inj h).symm

end Folder

namespace Storage

variable {storage after : Storage} {before written folder : Folder} {faults : Faults}
variable {database : Database} {name other document : String}

theorem noSlash_fileName (h : '/' ∉ name.toList) : '/' ∉ (fileName name).toList :=
  not_mem_fileName (Name.not_mem_key (by decide) h) (by decide)

/-! ## What is stored under other names -/

/-- The files of other names are read as before. -/
theorem OnlySaved.read_eq (h : OnlySaved name before written) (hname : '/' ∉ name.toList)
    (hother : '/' ∉ other.toList) (hne : ¬Name.Same other name) :
    written.read (fileName other) = before.read (fileName other) := by
  cases hplace : before.locate (fileName other) with
  | error fault =>
      have hlocate : written.locate (fileName other) = .error fault :=
        (Folder.locate_congr (noSlash_fileName hother)).trans hplace
      rw [Folder.read_of_locate_error hplace, Folder.read_of_locate_error hlocate]
  | ok place =>
      have hfile : before.locate (fileName name) ≠ .ok place := by
        intro hlocate
        apply hne
        apply key_eq_of_fileName_eq
        rw [← Folder.eq_of_locate (noSlash_fileName hother) hplace,
          Folder.eq_of_locate (noSlash_fileName hname) hlocate]
      have hdraft : before.locate (draftName name) ≠ .ok place :=
        fun hlocate => draft_ne_file hplace hlocate rfl
      rw [Folder.read_of_locate hplace,
        Folder.read_of_locate (h.toSameDirectories.locate hplace), h.others place hfile hdraft]

/-! ## Documents in place of databases -/

/-- Stores a document under a name, in place of any earlier one. -/
def saveDocument (storage : Storage) (name document : String) : Storage × Saving :=
  match storage.mode with
  | .memory => (storage, .saved)
  | .discarding stopping => (storage, if stopping then .stopped else .saved)
  | .folder faults =>
    if faults.save then (storage, .failed .full)
    else
      let (folder, saving) := writeIn storage.folder name document
      ({ storage with folder }, saving)

/-- A document that is stored stands in the file of the name, and no other place has changed. -/
theorem exists_of_saveDocument (hmode : storage.mode = .folder faults)
    (h : storage.saveDocument name document = (after, .saved)) :
    after.mode = storage.mode ∧ OnlySaved name storage.folder after.folder ∧
      ∃ place, storage.folder.locate (fileName name) = .ok place ∧
        after.folder.entries.find? place = some (.file document.toUTF8) := by
  unfold saveDocument at h
  simp only [hmode] at h
  split at h
  · cases h
  · have honly := onlySaved_writeIn storage.folder name document
    cases hwrite : writeIn storage.folder name document with
    | mk written saving =>
        rw [hwrite] at h honly
        cases h
        exact ⟨hmode.symm, honly, exists_of_writeIn hwrite⟩

/-- A document can be written if neither for the draft nor for the file a directory is in the
way. -/
theorem writeIn_saved_iff :
    (writeIn folder name document).2 = .saved ↔
      ∃ draft place, folder.locate (draftName name) = .ok draft ∧
        folder.entries.find? draft ≠ some .directory ∧
        folder.locate (fileName name) = .ok place ∧
        folder.entries.find? place ≠ some .directory := by
  constructor
  · intro h
    rcases writeIn_cases folder name document with
      ⟨_, hsave⟩ | ⟨draft, hdraft, hfree, ⟨_, hsave⟩ | ⟨place, hplace, hdirectory, -⟩⟩
    · simp [hsave] at h
    · simp [hsave] at h
    · exact ⟨draft, place, hdraft, hfree, hplace, hdirectory⟩
  · rintro ⟨draft, place, hdraft, hfree, hplace, hdirectory⟩
    have hdrafted : folder.write (draftName name) document.toUTF8 =
        .ok { folder with entries := folder.entries.insert draft (.file document.toUTF8) } :=
      Folder.put_eq_ok_iff.mpr ⟨draft, hdraft, hfree, rfl⟩
    have hsame := Folder.SameDirectories.insert_file hfree document.toUTF8
    have hfound : (folder.entries.insert draft (.file document.toUTF8)).find? draft =
        some (.file document.toUTF8) := by
      simp
    have hrename := Folder.rename_of_locate (hsame.locate hdraft) hfound (hsame.locate hplace)
      (mt (hsame.directories place).mp hdirectory)
    simp only [writeIn, hdrafted, hrename]

/-- Whether a document can be stored does not depend on what it says. -/
theorem saveDocument_saved_iff (document' : String) :
    (storage.saveDocument name document).2 = .saved ↔
      (storage.saveDocument name document').2 = .saved := by
  unfold saveDocument
  split
  · rfl
  · rfl
  · split
    · rfl
    · exact writeIn_saved_iff.trans writeIn_saved_iff.symm

/-- A save stores the document that has the tables in the order of their keys. If the document
with the tables in any order is stored, the database is loaded as it was under every spelling of
its name, and what is stored under other names is as before. -/
theorem load_of_saveDocument (hmode : storage.mode = .folder faults) (hload : faults.load = false)
    (hconsistent : database.isConsistent) (hfits : database.Fits) :
    storage.save database =
        storage.saveDocument database.name (database.documentIn database.tables.entries) ∧
      ∀ entries after, entries.Perm database.tables.entries →
        storage.saveDocument database.name (database.documentIn entries) = (after, .saved) →
          (∀ name, Name.key name = Name.key database.name →
            after.load name = .ok (some database)) ∧
          ∀ name, '/' ∉ database.name.toList → '/' ∉ name.toList →
            Name.key name ≠ Name.key database.name →
              after.holds name = storage.holds name ∧ after.load name = storage.load name := by
  refine ⟨rfl, fun entries after horder hsave => ?_⟩
  obtain ⟨hafter, honly, place, hplace, hfound⟩ := exists_of_saveDocument hmode hsave
  constructor
  · intro name hname
    have hfile : after.folder.locate (fileName name) = .ok place := by
      rw [fileName_congr hname]
      exact honly.toSameDirectories.locate hplace
    rw [load_of_found (hafter.trans hmode) hload hfile hfound, decode_documentIn hfits horder,
      if_pos hconsistent]
    rfl
  · intro name hslash hother hne
    have hread := honly.read_eq hslash hother hne
    constructor
    · simp only [holds, hafter, hmode, Folder.isFile, hread]
    · simp only [load, hafter, hmode, hread, honly.path]

/-- A database with texts that need care: quotes, a backslash, controls, and characters beyond the
first 65536. -/
def quaint : Database where
  name := "Q\"\\𝄞"
  tables := (NameMap.empty.insert "t" {
      name := "T", columns := ["ID", "\u0004"], rows := [["1", "'\"\\"], ["+7", "\n𝄞"]]
      nextId := 18446744073709551615 }).insert "é" {
      name := "é", columns := ["id"], rows := [], nextId := 0 }

/-- A folder with a directory and a file that holds no database. -/
def attic : Storage where
  mode := .folder .none
  folder := {
    path := "data"
    entries := (NameMap.empty.insert "t" .directory).insert "other.json" (.file "?".toUTF8) }

theorem locate_quaint :
    attic.folder.locate (draftName quaint.name) = .ok "q\"\\𝄞.json.tmp" ∧
      attic.folder.locate (fileName quaint.name) = .ok "q\"\\𝄞.json" := by
  have hsimple : Name.Simple quaint.name := by
    constructor <;> (rw [Name.toList_key]; decide)
  have hdraft : draftName quaint.name = "q\"\\𝄞.json.tmp" := by cbv
  have hfile : fileName quaint.name = "q\"\\𝄞.json" := by cbv
  constructor
  · rw [locate_draftName hsimple, hdraft, if_neg (by decide)]
  · rw [locate_fileName hsimple, hfile, if_neg (by decide)]

theorem fits_quaint : quaint.Fits :=
  ((Database.fits_empty _).insert "t" (by decide)).insert "é" (by decide)

theorem load_of_saveDocument_quaint :
    quaint.isConsistent = true ∧
      ∃ after, attic.saveDocument quaint.name
          (quaint.documentIn quaint.tables.entries.reverse) = (after, .saved) ∧
        after.load "q\"\\𝄞" = .ok (some quaint) ∧
        after.holds "other" = attic.holds "other" ∧ after.load "other" = attic.load "other" := by
  have hconsistent : quaint.isConsistent = true := by cbv
  have hfree : attic.folder.entries.find? "q\"\\𝄞.json.tmp" = none ∧
      attic.folder.entries.find? "q\"\\𝄞.json" = none := by
    constructor <;> (simp only [attic, NameMap.find?_insert, NameMap.find?_empty]; decide)
  have hwrite : (writeIn attic.folder quaint.name
      (quaint.documentIn quaint.tables.entries.reverse)).2 = .saved :=
    writeIn_saved_iff.mpr ⟨_, _, locate_quaint.1, by simp [hfree], locate_quaint.2, by simp [hfree]⟩
  have hsave : attic.saveDocument quaint.name (quaint.documentIn quaint.tables.entries.reverse) =
      ({ attic with folder := (writeIn attic.folder quaint.name
        (quaint.documentIn quaint.tables.entries.reverse)).1 }, .saved) :=
    Prod.ext rfl hwrite
  have hmode : attic.mode = .folder .none := rfl
  obtain ⟨-, hload⟩ := load_of_saveDocument hmode rfl hconsistent fits_quaint
  obtain ⟨hsame, hothers⟩ := hload _ _ (List.reverse_perm _) hsave
  have hother : Name.key "other" ≠ Name.key quaint.name := by decide +kernel
  exact ⟨hconsistent, _, hsave, hsame _ (by cbv), hothers "other" (by decide) (by decide) hother⟩

end Storage

end Rowbase
