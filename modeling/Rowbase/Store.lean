import Rowbase.Database.Join
import Rowbase.Storage

/-!
# Stores

A store holds the databases in use and the storage behind them. A database is loaded when it
is first asked for, and saved after every change; a change that cannot be saved is undone.
-/

namespace Rowbase

/-- What a command comes to. -/
inductive Outcome where
  | done
  | listing (listing : Listing)
  | failed (error : Error)
  /-- The command was cut off. -/
  | stopped
  deriving DecidableEq, Repr

/-- The databases in use, by the keys of their names, and the storage behind them. -/
structure Store where
  databases : NameMap Database
  storage : Storage
  deriving DecidableEq

namespace Store

/-- A store that has loaded nothing yet. -/
def create (storage : Storage) : Store where
  databases := .empty
  storage

/-- A store whose databases last as long as it does. -/
def inMemory : Store :=
  create { mode := .memory, folder := .create "" }

/-- The names of the databases in use in ascending order. -/
def databaseNames (store : Store) : List String :=
  (store.databases.values.map (·.name)).mergeSort

/-- Whether a name is taken, by a database in use or a stored one. -/
def holds (store : Store) (name : String) : Bool :=
  store.databases.contains (Name.key name) || store.storage.holds name

/-- The store with another database under the given name. -/
def put (store : Store) (name : String) (database : Database) : Store :=
  { store with databases := store.databases.insert (Name.key name) database }

/-- The database of a name, loaded if it is not in use yet. -/
def fetch (store : Store) (name : String) : Store × Except Error Database :=
  match store.databases.find? (Name.key name) with
  | some database => (store, .ok database)
  | none =>
    match store.storage.load name with
    | .error fault => (store, .error (.storage fault))
    | .ok none => (store, .error (.unknownDatabase name))
    | .ok (some database) => (store.put name database, .ok database)

/-- Makes a database, whose name must be free. It is in use once it is saved. -/
def createDatabase (store : Store) (name : String) : Store × Outcome :=
  if store.holds name then (store, .failed (.databaseExists name))
  else
    let database := Database.create name
    match store.storage.save database with
    | (storage, .saved) => ({ store with storage }.put name database, .done)
    | (storage, .failed fault) => ({ store with storage }, .failed (.storage fault))
    | (storage, .stopped) => ({ store with storage }, .stopped)

/-- Removes a database from the storage and from use. -/
def dropDatabase (store : Store) (name : String) : Store × Outcome :=
  if store.holds name then
    match store.storage.remove name with
    | .error fault => (store, .failed (.storage fault))
    | .ok storage =>
      ({ databases := store.databases.erase (Name.key name), storage }, .done)
  else (store, .failed (.unknownDatabase name))

/-- Changes a database and saves it. If the save fails the database is as before; if the save
is cut off, the change stays in use. -/
def change (store : Store) (name : String) (change : Change) : Store × Outcome :=
  match store.fetch name with
  | (store, .error error) => (store, .failed error)
  | (store, .ok database) =>
    match database.change change with
    | .error error => (store, .failed error)
    | .ok changed =>
      match store.storage.save changed with
      | (storage, .saved) => ({ store with storage }.put name changed, .done)
      | (storage, .failed fault) => ({ store with storage }, .failed (.storage fault))
      | (storage, .stopped) => ({ store with storage }.put name changed, .stopped)

/-- Asks a database a question. -/
def query (store : Store) (name : String) (query : Query) : Store × Outcome :=
  match store.fetch name with
  | (store, .error error) => (store, .failed error)
  | (store, .ok database) =>
    match database.query query with
    | .error error => (store, .failed error)
    | .ok listing => (store, .listing listing)

end Store

end Rowbase
