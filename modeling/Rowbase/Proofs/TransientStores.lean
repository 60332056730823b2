import Mathlib
import Rowbase.Session

/-!
# Stores that keep nothing

A storage that is not a folder has no documents: nothing is loaded from it, and nothing is
removed. A store on it knows only the databases in use, and a save leaves it as it is.
-/

namespace Rowbase

namespace Storage

variable {storage : Storage}

/-- The storage is no folder. -/
def Transient (storage : Storage) : Prop :=
  ∀ faults, storage.mode ≠ .folder faults

/-- Whether a save does not return. -/
def stops (storage : Storage) : Bool :=
  storage.mode = .discarding true

theorem Transient.load (h : storage.Transient) (name : String) : storage.load name = .ok none := by
  unfold Storage.load
  split
  · rfl
  · rfl
  next faults hmode => exact absurd hmode (h faults)

theorem Transient.holds (h : storage.Transient) (name : String) : storage.holds name = false := by
  unfold Storage.holds
  split
  · rfl
  · rfl
  next faults hmode => exact absurd hmode (h faults)

theorem Transient.remove (h : storage.Transient) (name : String) :
    storage.remove name = .ok storage := by
  unfold Storage.remove
  split
  · rfl
  · rfl
  next faults hmode => exact absurd hmode (h faults)

theorem Transient.save (h : storage.Transient) (database : Database) :
    storage.save database = (storage, if storage.stops then .stopped else .saved) := by
  unfold Storage.save
  split
  next hmode => simp [stops, hmode]
  next stopping hmode => simp [stops, hmode]
  next faults hmode => exact absurd hmode (h faults)

end Storage

namespace Store

variable {store : Store} {name : String}

theorem holds_transient (h : store.storage.Transient) :
    store.holds name = store.databases.contains (Name.key name) := by
  rw [holds, h.holds, Bool.or_false]

theorem fetch_transient (h : store.storage.Transient) :
    store.fetch name =
      (store, match store.databases.find? (Name.key name) with
        | some database => .ok database
        | none => .error (.unknownDatabase name)) := by
  unfold fetch
  cases store.databases.find? (Name.key name) with
  | some database => rfl
  | none => simp [h.load]

theorem createDatabase_transient (h : store.storage.Transient) :
    store.createDatabase name =
      if store.databases.contains (Name.key name) then (store, .failed (.databaseExists name))
      else if store.storage.stops then (store, .stopped)
      else (store.put name (Database.create name), .done) := by
  unfold createDatabase
  rw [holds_transient h]
  split
  · rfl
  · cases hstops : store.storage.stops <;> simp [h.save, hstops]

theorem dropDatabase_transient (h : store.storage.Transient) :
    store.dropDatabase name =
      if store.databases.contains (Name.key name) then
        ({ store with databases := store.databases.erase (Name.key name) }, .done)
      else (store, .failed (.unknownDatabase name)) := by
  unfold dropDatabase
  rw [holds_transient h, h.remove]

theorem change_transient {change : Change} {database : Database} (h : store.storage.Transient)
    (hfound : store.databases.find? (Name.key name) = some database) :
    store.change name change =
      match database.change change with
      | .error error => (store, .failed error)
      | .ok changed =>
        (store.put name changed, if store.storage.stops then .stopped else .done) := by
  unfold Store.change
  rw [fetch_transient h, hfound]
  cases hchange : database.change change with
  | error error => simp [hchange]
  | ok changed => cases hstops : store.storage.stops <;> simp [hchange, h.save, hstops]

theorem change_transient_none {change : Change} (h : store.storage.Transient)
    (hnone : store.databases.find? (Name.key name) = none) :
    store.change name change = (store, .failed (.unknownDatabase name)) := by
  simp [Store.change, fetch_transient h, hnone]

theorem query_transient {query : Query} {database : Database} (h : store.storage.Transient)
    (hfound : store.databases.find? (Name.key name) = some database) :
    store.query name query =
      (store, match database.query query with
        | .error error => .failed error
        | .ok listing => .listing listing) := by
  unfold Store.query
  rw [fetch_transient h, hfound]
  cases hquery : database.query query <;> simp [hquery]

theorem query_transient_none {query : Query} (h : store.storage.Transient)
    (hnone : store.databases.find? (Name.key name) = none) :
    store.query name query = (store, .failed (.unknownDatabase name)) := by
  simp [Store.query, fetch_transient h, hnone]

end Store

/-! ## Sessions -/

namespace Session

variable {session : Session} {store : Store}

/-- What a command can do in a store that keeps nothing. -/
inductive Step (session : Session) (store : Store) :
    Command → Session → Store → Outcome → Prop where
  | refused {command : Command} (error : Error) :
      Step session store command session store (.failed error)
  | used (name : String) :
      Step session store (.use name) { current := some (Name.key name) } store .done
  | created (name : String) :
      Step session store (.createDatabase name) session
        (store.put name (Database.create name)) .done
  | creationCutOff (name : String) :
      Step session store (.createDatabase name) session store .stopped
  | dropped (name : String) (next : Session) :
      Step session store (.dropDatabase name) next
        { store with databases := store.databases.erase (Name.key name) } .done
  | changed {change : Change} {name : String} {database changed : Database}
      (current : session.current = some name)
      (found : store.databases.find? (Name.key name) = some database)
      (made : database.change change = .ok changed) :
      Step session store (.change change) session (store.put name changed)
        (if store.storage.stops then .stopped else .done)
  | answered (query : Query) (listing : Listing) :
      Step session store (.query query) session store (.listing listing)

theorem step_change (h : store.storage.Transient) (change : Change) :
    session.Step store (.change change) session
      (session.withCurrent store (store.change · change)).1
      (session.withCurrent store (store.change · change)).2 := by
  unfold withCurrent
  split
  next name hcurrent =>
    simp only
    cases hfound : store.databases.find? (Name.key name) with
    | none =>
        rw [Store.change_transient_none h hfound]
        exact .refused _
    | some database =>
        rw [Store.change_transient h hfound]
        split
        · exact .refused _
        next changed hmade => exact .changed hcurrent hfound hmade
  · exact .refused _

theorem step_query (h : store.storage.Transient) (query : Query) :
    session.Step store (.query query) session
      (session.withCurrent store (store.query · query)).1
      (session.withCurrent store (store.query · query)).2 := by
  unfold withCurrent
  split
  next name _ =>
    simp only
    cases hfound : store.databases.find? (Name.key name) with
    | none =>
        rw [Store.query_transient_none h hfound]
        exact .refused _
    | some database =>
        rw [Store.query_transient h hfound]
        simp only
        split
        · exact .refused _
        next listing _ => exact .answered query listing
  · exact .refused _

/-- Every command in a store that keeps nothing is a step. -/
theorem step_execute (h : store.storage.Transient) (command : Command) :
    session.Step store command (session.execute store command).1
      (session.execute store command).2.1 (session.execute store command).2.2 := by
  cases command with
  | use name =>
      rw [execute, Store.fetch_transient h]
      cases store.databases.find? (Name.key name) with
      | none => exact .refused _
      | some database => exact .used name
  | createDatabase name =>
      rw [execute, Store.createDatabase_transient h]
      split
      · exact .refused _
      · split
        · exact .creationCutOff name
        · exact .created name
  | dropDatabase name =>
      rw [execute, Store.dropDatabase_transient h]
      by_cases hheld : store.databases.contains (Name.key name) = true
      · rw [if_pos hheld]
        exact .dropped name _
      · rw [if_neg hheld]
        exact .refused _
  | change change => exact step_change h change
  | query query => exact step_query h query

theorem Step.storage {command : Command} {next : Session} {after : Store} {outcome : Outcome}
    (h : session.Step store command next after outcome) :
    after.storage = store.storage := by
  cases h <;> rfl

end Session

end Rowbase
