import Rowbase.Proofs.FailedCommands
import Rowbase.Proofs.Readings

/-!
# Files of simple names

A name without a slash or NUL has its document and its draft in the folder itself. Every name
that is read from a line is of this kind. In a folder without directories a save under such a
name fails only if the name of the draft is too long, and otherwise it changes one file.
-/

namespace Rowbase

namespace Name

/-- The key of the name has neither a slash nor a NUL character. -/
structure Simple (name : String) : Prop where
  noSlash : '/' ∉ (key name).toList
  noNul : '\x00' ∉ (key name).toList

theorem Simple.of_key_eq {name other : String} (h : Simple name) (hkey : key other = key name) :
    Simple other :=
  ⟨hkey ▸ h.noSlash, hkey ▸ h.noNul⟩

/-- Only small letters have another character that they are the small letter of. -/
theorem eq_of_toLower_eq {c d : Char} (h : c.toLower = d)
    (hd : ¬(97 ≤ d.toNat ∧ d.toNat ≤ 122)) : c = d := by
  unfold Char.toLower at h
  split at h
  next hupper =>
    exfalso
    apply hd
    have hge := UInt32.le_iff_toNat_le.mp hupper.1
    have hle := UInt32.le_iff_toNat_le.mp hupper.2
    rw [← h, ← Char.toNat_val]
    simp at hge hle ⊢
    omega
  · exact h

theorem not_mem_key {name : String} {d : Char} (hd : ¬(97 ≤ d.toNat ∧ d.toNat ≤ 122))
    (h : d ∉ name.toList) : d ∉ (key name).toList := by
  rw [toList_key, List.mem_map]
  rintro ⟨c, hc, hlower⟩
  rw [eq_of_toLower_eq hlower hd] at hc
  exact h hc

/-- A name that is read from a line is simple. -/
theorem simple_of_named {name : String} (h : Token.Named name) : Simple name := by
  constructor
  · apply not_mem_key (by decide)
    intro hmem
    exact absurd (h.wordChars _ hmem) (by decide)
  · apply not_mem_key (by decide)
    intro hmem
    exact absurd (h.wordChars _ hmem) (by decide)

end Name

namespace Storage

variable {name : String}

/-! ## Paths of documents and drafts -/

theorem fileName_congr {other : String} (h : Name.key name = Name.key other) :
    fileName name = fileName other := by
  rw [fileName, h, fileName]

theorem key_eq_of_fileName_eq {other : String} (h : fileName name = fileName other) :
    Name.key name = Name.key other := by
  have hlists := congrArg String.toList h
  rw [fileName, fileName, String.toList_append, String.toList_append] at hlists
  exact String.toList_injective (List.append_cancel_right hlists)

theorem suffix_fileName (name : String) : ".json".toList <:+ (fileName name).toList := by
  rw [fileName, String.toList_append]
  exact List.suffix_append _ _

theorem draftName_ne_fileName (name other : String) : draftName name ≠ fileName other :=
  ne_of_suffix_draft (suffix_fileName other) (suffix_draftName name)

theorem exists_draftName_eq (name : String) :
    ∃ ending, draftName name = fileName name ++ ending ∧
      (ending = ".tmp" ∨ ending = ".json.tmp") := by
  unfold draftName
  simp only
  split
  · exact ⟨".json.tmp", rfl, .inr rfl⟩
  · exact ⟨".json.tmp", rfl, .inr rfl⟩
  · exact ⟨".tmp", rfl, .inl rfl⟩

theorem not_mem_fileName {c : Char} (hkey : c ∉ (Name.key name).toList)
    (hc : c ∉ ".json".toList) : c ∉ (fileName name).toList := by
  rw [fileName, String.toList_append, List.mem_append]
  exact not_or.mpr ⟨hkey, hc⟩

theorem not_mem_draftName {c : Char} (hkey : c ∉ (Name.key name).toList)
    (hc : c ∉ ".json.tmp".toList) : c ∉ (draftName name).toList := by
  have hparts : ".json.tmp".toList = ".json".toList ++ ".tmp".toList := by decide
  obtain ⟨hjson, htmp⟩ := not_or.mp fun h => hc (hparts ▸ List.mem_append.mpr h)
  obtain ⟨ending, hdraft, hending⟩ := exists_draftName_eq name
  rw [hdraft, String.toList_append, List.mem_append]
  refine not_or.mpr ⟨not_mem_fileName hkey hjson, ?_⟩
  rcases hending with rfl | rfl
  · exact htmp
  · exact hc

theorem utf8ByteSize_fileName_le (name : String) :
    (fileName name).utf8ByteSize ≤ (draftName name).utf8ByteSize := by
  obtain ⟨ending, hdraft, -⟩ := exists_draftName_eq name
  rw [hdraft, String.utf8ByteSize_append]
  exact Nat.le_add_right _ _

theorem locate_fileName (h : Name.Simple name) (folder : Folder) :
    folder.locate (fileName name) =
      if Folder.nameLimit < (fileName name).utf8ByteSize then .error .refused
      else .ok (fileName name) :=
  Folder.locate_of_plain (not_mem_fileName h.noSlash (by decide))
    (not_mem_fileName h.noNul (by decide))

theorem locate_draftName (h : Name.Simple name) (folder : Folder) :
    folder.locate (draftName name) =
      if Folder.nameLimit < (draftName name).utf8ByteSize then .error .refused
      else .ok (draftName name) :=
  Folder.locate_of_plain (not_mem_draftName h.noSlash (by decide))
    (not_mem_draftName h.noNul (by decide))

/-! ## Saves in a folder without directories -/

end Storage

namespace Folder

variable {folder : Folder} {path place : String}

/-- A folder that holds files only. -/
def Flat (folder : Folder) : Prop :=
  ∀ path, folder.entries.find? path ≠ some .directory

theorem read_of_locate (h : folder.locate path = .ok place) :
    folder.read path =
      match folder.entries.find? place with
      | some (.file bytes) => .ok bytes
      | some .directory => .error .refused
      | none => .error .missing := by
  rw [read, h, ok_bind]
  rfl

theorem read_of_locate_error {fault : FileFault} (h : folder.locate path = .error fault) :
    folder.read path = .error fault := by
  rw [read, h, error_bind]

theorem write_of_locate (hflat : folder.Flat) {bytes : ByteArray}
    (h : folder.locate path = .ok place) :
    folder.write path bytes =
      .ok { folder with entries := folder.entries.insert place (.file bytes) } :=
  put_eq_ok_iff.mpr ⟨place, h, hflat place, rfl⟩

end Folder

namespace Storage

variable {folder : Folder} {database : Database}

/-- The entry of a database's document. -/
def document (database : Database) : Entry :=
  .file database.write.toUTF8

/-- The folder after the draft is written. -/
def draftedFolder (folder : Folder) (database : Database) : Folder where
  path := folder.path
  entries := folder.entries.insert (draftName database.name) (document database)

/-- The folder after the draft has taken its place. -/
def savedFolder (folder : Folder) (database : Database) : Folder where
  path := folder.path
  entries := ((draftedFolder folder database).entries.erase (draftName database.name)).insert
    (fileName database.name) (document database)

theorem find?_savedFolder (path : String) :
    (savedFolder folder database).entries.find? path =
      if fileName database.name = path then some (document database)
      else if draftName database.name = path then none
      else folder.entries.find? path := by
  simp only [savedFolder, draftedFolder, NameMap.find?_insert, NameMap.find?_erase]
  split
  · rfl
  · split
    · rfl
    · rfl

/-- A save under a simple name fails for the length of the draft's name, or it succeeds. -/
theorem saveIn_of_simple (hflat : folder.Flat) (hsimple : Name.Simple database.name) :
    saveIn folder database =
      if Folder.nameLimit < (draftName database.name).utf8ByteSize then (folder, .failed .refused)
      else (savedFolder folder database, .saved) := by
  have hsize := utf8ByteSize_fileName_le database.name
  unfold saveIn
  by_cases hlong : Folder.nameLimit < (draftName database.name).utf8ByteSize
  · have hlocate : folder.locate (draftName database.name) = .error .refused := by
      rw [locate_draftName hsimple, if_pos hlong]
    rw [if_pos hlong, Folder.write, Folder.put, hlocate, error_bind]
    rfl
  · have hdraft (folder : Folder) :
        folder.locate (draftName database.name) = .ok (draftName database.name) := by
      rw [locate_draftName hsimple, if_neg hlong]
    have hfile (folder : Folder) :
        folder.locate (fileName database.name) = .ok (fileName database.name) := by
      rw [locate_fileName hsimple, if_neg fun hlt => hlong (Nat.lt_of_lt_of_le hlt hsize)]
    have hwrite : folder.write (draftName database.name) database.write.toUTF8 =
        .ok (draftedFolder folder database) :=
      Folder.write_of_locate hflat (hdraft folder)
    have hread : (draftedFolder folder database).read (draftName database.name) =
        .ok database.write.toUTF8 := by
      rw [Folder.read_of_locate (hdraft _)]
      simp [draftedFolder, document]
    have hrename : (draftedFolder folder database).rename (draftName database.name)
        (fileName database.name) = .ok (savedFolder folder database) := by
      rw [Folder.rename, hread, ok_bind, Folder.remove, hread, ok_bind, hdraft, ok_bind]
      apply Folder.write_of_locate _ (hfile _)
      intro path
      simp only [draftedFolder, NameMap.find?_erase, NameMap.find?_insert]
      split
      · simp
      · exact hflat path
    rw [if_neg hlong, hwrite]
    simp only [hrename]

/-- What a save under a simple name makes of a storage. -/
theorem save_of_simple {storage : Storage} {faults : Faults} (hmode : storage.mode = .folder faults)
    (hflat : storage.folder.Flat) (hsimple : Name.Simple database.name) :
    storage.save database =
      if faults.save then (storage, .failed .full)
      else if Folder.nameLimit < (draftName database.name).utf8ByteSize then
        (storage, .failed .refused)
      else ({ storage with folder := savedFolder storage.folder database }, .saved) := by
  obtain ⟨mode, folder⟩ := storage
  subst hmode
  unfold save
  simp only [saveIn_of_simple hflat hsimple]
  split
  · rfl
  · split
    · rfl
    · rfl

end Storage

end Rowbase
