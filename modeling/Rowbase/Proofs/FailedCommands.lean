import Rowbase.Proofs.Paths
import Rowbase.Proofs.StoreSteps
import Rowbase.Session

/-!
# Failed commands

A command that fails, for whatever reason, leaves the session, the stored documents and the
databases in use as they were. The one trace it can leave in the store is a database that was
loaded before the failure, exactly as it is stored; a save that cannot put its document in
place can also leave a draft.
-/

namespace Rowbase

/-! ## Keys of names -/

namespace Name

theorem toLower_toLower (c : Char) : c.toLower.toLower = c.toLower := by
  unfold Char.toLower
  split
  next hupper =>
    have hge := UInt32.le_iff_toNat_le.mp hupper.1
    have hle := UInt32.le_iff_toNat_le.mp hupper.2
    rw [dif_neg]
    rintro ⟨-, hlarge⟩
    have hlower := UInt32.le_iff_toNat_le.mp hlarge
    simp at hge hle hlower
    omega
  · rfl

@[simp] theorem key_key (name : String) : key (key name) = key name := by
  apply String.toList_injective
  rw [toList_key, toList_key, List.map_map]
  apply List.map_congr_left
  intro c _
  exact toLower_toLower c

end Name

namespace Storage

/-! ## Documents and drafts -/

theorem fileName_key (name : String) : fileName (Name.key name) = fileName name := by
  rw [fileName, fileName, Name.key_key]

theorem load_key (storage : Storage) (name : String) :
    storage.load (Name.key name) = storage.load name := by
  rw [load, load, fileName_key]

/-- The entries whose names end as those of stored documents do are the same. -/
def SameDocuments (before after : Folder) : Prop :=
  ∀ path : String, ".json".toList <:+ path.toList →
    after.entries.find? path = before.entries.find? path

theorem SameDocuments.refl (folder : Folder) : SameDocuments folder folder :=
  fun _ _ => rfl

theorem suffix_draftName (name : String) :
    ".json.tmp".toList <:+ (draftName name).toList := by
  unfold draftName
  simp only
  split
  · rw [String.toList_append]
    exact List.suffix_append _ _
  · rw [String.toList_append]
    exact List.suffix_append _ _
  · have hending : ".json" ++ ".tmp" = ".json.tmp" := by decide
    rw [fileName, String.append_assoc, hending, String.toList_append]
    exact List.suffix_append _ _

/-- What ends as a draft does is no document. -/
theorem ne_of_suffix_draft {path draft : String} (hpath : ".json".toList <:+ path.toList)
    (hdraft : ".json.tmp".toList <:+ draft.toList) : draft ≠ path := by
  rintro rfl
  have hlast (ending : List Char) (c : Char) (hsuffix : ending ++ [c] <:+ draft.toList) :
      draft.toList.getLast? = some c := by
    obtain ⟨before, hbefore⟩ := hsuffix
    rw [← hbefore, ← List.append_assoc, List.getLast?_concat]
  have hn : draft.toList.getLast? = some 'n' := hlast ".jso".toList 'n' hpath
  have hp : draft.toList.getLast? = some 'p' := hlast ".json.tm".toList 'p' hdraft
  rw [hn] at hp
  exact absurd hp (by decide)

/-- A save that fails has at most written a draft. -/
theorem sameDocuments_of_saveIn {folder after : Folder} {database : Database}
    {fault : StorageFault} (h : saveIn folder database = (after, .failed fault)) :
    SameDocuments folder after := by
  unfold saveIn at h
  split at h
  · cases h
    exact .refl folder
  next drafted hdrafted =>
    split at h
    · cases h
      obtain ⟨place, hplace, -, rfl⟩ := Folder.put_eq_ok_iff.mp hdrafted
      have hsuffix := Folder.suffix_of_locate (by decide) (suffix_draftName database.name) hplace
      intro path hpath
      simp [ne_of_suffix_draft hpath hsuffix]
    · simp at h

theorem sameDocuments_of_save {storage after : Storage} {database : Database}
    {fault : StorageFault} (h : storage.save database = (after, .failed fault)) :
    after.mode = storage.mode ∧ SameDocuments storage.folder after.folder := by
  unfold save at h
  split at h
  · simp at h
  next stopping _ => cases stopping <;> simp at h
  next faults _ =>
    split at h
    · cases h
      exact ⟨rfl, .refl _⟩
    · simp only [Prod.mk.injEq] at h
      obtain ⟨rfl, hsaving⟩ := h
      exact ⟨rfl, sameDocuments_of_saveIn (Prod.ext rfl hsaving)⟩

end Storage

/-! ## Stores after a failure -/

namespace Store

/-- A store that has kept its documents and the databases in use, and has loaded at most one
database more. -/
structure Undisturbed (before after : Store) : Prop where
  databases : after.databases = before.databases ∨
    ∃ key database, before.databases.find? key = none ∧
      before.storage.load key = .ok (some database) ∧
        after.databases = before.databases.insert key database
  documents : Storage.SameDocuments before.storage.folder after.storage.folder
  mode : after.storage.mode = before.storage.mode

variable {store after : Store} {name : String}

theorem Undisturbed.refl (store : Store) : store.Undisturbed store :=
  ⟨.inl rfl, .refl _, rfl⟩

/-- Fetching a database that is not there changes nothing. -/
theorem eq_of_fetch_error {error : Error} (h : store.fetch name = (after, .error error)) :
    after = store := by
  unfold fetch at h
  split at h
  · simp at h
  · split at h <;> cases h
    · rfl
    · rfl

/-- Fetching a database loads it if it is not in use. -/
theorem fetch_ok {database : Database} (h : store.fetch name = (after, .ok database)) :
    after.databases.find? (Name.key name) = some database ∧ store.Undisturbed after := by
  unfold fetch at h
  split at h
  next hfound =>
    cases h
    exact ⟨hfound, .refl store⟩
  next hnone =>
    split at h <;> cases h
    next hload =>
      refine ⟨by simp [put], .inr ⟨Name.key name, database, hnone, ?_, rfl⟩, .refl _, rfl⟩
      rwa [Storage.load_key]

theorem undisturbed_fetch (store : Store) (name : String) :
    store.Undisturbed (store.fetch name).1 := by
  rcases hfetch : store.fetch name with ⟨after, found⟩
  cases found with
  | error error =>
      rw [eq_of_fetch_error hfetch]
      exact .refl store
  | ok database => exact (fetch_ok hfetch).2

/-- A later storage with the same documents is no disturbance. -/
theorem Undisturbed.withStorage (h : store.Undisturbed after) {storage : Storage}
    (hsame : storage.mode = store.storage.mode ∧
      Storage.SameDocuments store.storage.folder storage.folder) :
    store.Undisturbed { after with storage } :=
  ⟨h.databases, hsame.2, hsame.1⟩

theorem undisturbed_of_createDatabase {error : Error}
    (h : store.createDatabase name = (after, .failed error)) : store.Undisturbed after := by
  unfold createDatabase at h
  split at h
  · cases h
    exact .refl store
  · simp only at h
    split at h
    · simp at h
    next storage fault hsave =>
      cases h
      exact (Undisturbed.refl store).withStorage (Storage.sameDocuments_of_save hsave)
    · simp at h

theorem eq_of_dropDatabase_failed {error : Error}
    (h : store.dropDatabase name = (after, .failed error)) : after = store := by
  unfold dropDatabase at h
  split at h
  · split at h <;> cases h
    rfl
  · cases h
    rfl

/-- A change that fails, before it is made or when it is saved, is undone. -/
theorem undisturbed_of_change {change : Change} {error : Error}
    (h : store.change name change = (after, .failed error)) : store.Undisturbed after := by
  have hloaded := store.undisturbed_fetch name
  rw [change_eq] at h
  cases hmade : (store.fetch name).2 >>= (·.change change) with
  | error error =>
      rw [hmade] at h
      cases h
      exact hloaded
  | ok changed =>
      rw [hmade, replace] at h
      split at h
      · simp at h
      next storage fault hsave =>
        cases h
        rw [storage_fetch] at hsave
        exact hloaded.withStorage (Storage.sameDocuments_of_save hsave)
      · simp at h

theorem undisturbed_of_query {query : Query} {error : Error}
    (h : store.query name query = (after, .failed error)) : store.Undisturbed after := by
  rw [query_eq] at h
  obtain ⟨rfl, -⟩ := Prod.mk.inj h
  exact store.undisturbed_fetch name

end Store

namespace Session

variable {session next : Session} {store after : Store} {error : Error}

theorem withCurrent_failed {action : String → Store × Outcome}
    (haction : ∀ name, action name = (after, .failed error) → store.Undisturbed after)
    (h : session.withCurrent store action = (after, .failed error)) :
    store.Undisturbed after := by
  unfold withCurrent at h
  split at h
  next name _ => exact haction name h
  · cases h
    exact .refl store

theorem execute_failed {command : Command}
    (h : session.execute store command = (next, after, .failed error)) :
    next = session ∧ store.Undisturbed after := by
  cases command with
  | use name =>
      unfold execute at h
      simp only at h
      split at h
      · simp at h
      next hfetch =>
        cases h
        rw [Store.eq_of_fetch_error hfetch]
        exact ⟨rfl, .refl store⟩
  | createDatabase name =>
      obtain ⟨hsession, hcreate⟩ := Prod.mk.inj h
      exact ⟨hsession.symm, Store.undisturbed_of_createDatabase hcreate⟩
  | dropDatabase name =>
      unfold execute at h
      simp only at h
      split at h
      · simp at h
      next hdrop =>
        cases h
        rw [Store.eq_of_dropDatabase_failed hdrop]
        exact ⟨rfl, .refl store⟩
  | change change =>
      obtain ⟨hsession, hchange⟩ := Prod.mk.inj h
      exact ⟨hsession.symm, withCurrent_failed (fun _ => Store.undisturbed_of_change) hchange⟩
  | query query =>
      obtain ⟨hsession, hquery⟩ := Prod.mk.inj h
      exact ⟨hsession.symm, withCurrent_failed (fun _ => Store.undisturbed_of_query) hquery⟩

/-- A line that fails, whether it cannot be read or its command cannot be executed, leaves the
session and the documents as they were. The databases in use are the same, but for one that
may have been loaded. -/
theorem run_failed {line : String} (h : session.run store line = (next, after, .failed error)) :
    next = session ∧ store.Undisturbed after := by
  unfold run at h
  split at h
  · exact execute_failed h
  · cases h
    exact ⟨rfl, .refl store⟩

/-- A store with one database in use and no room to save it. -/
def crowded : Store where
  databases := NameMap.empty.insert "shop" (Database.create "Shop")
  storage :=
    { mode := .folder { save := true, load := false, remove := false }
      folder := .create "" }

theorem run_failed_crowded :
    ({ current := some "shop" } : Session).run crowded "CREATE TABLE t;" =
        ({ current := some "shop" }, crowded, .failed (.storage .full)) ∧
      (({ current := some "shop" } : Session) = { current := some "shop" } ∧
        crowded.Undisturbed crowded) := by
  have hrun : ({ current := some "shop" } : Session).run crowded "CREATE TABLE t;" =
      ({ current := some "shop" }, crowded, .failed (.storage .full)) := by
    cbv
  exact ⟨hrun, run_failed hrun⟩

end Session

end Rowbase
