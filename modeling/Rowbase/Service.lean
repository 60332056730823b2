import Rowbase.Session

/-!
# Services

A store and the sessions that share it, through a whole history: lines in any session, faults
that come and go, and restarts.
-/

namespace Rowbase

/-- A store and its sessions by number. -/
structure Service where
  store : Store
  sessions : Nat → Session

/-- What can happen to a service. -/
inductive Service.Event where
  | line (session : Nat) (text : String)
  /-- From now on the given calls of the storage fail, and no others. -/
  | fail (faults : Storage.Faults)
  | restart
  deriving DecidableEq, Repr

namespace Service

/-- A service that has done nothing yet. -/
def create (storage : Storage) : Service where
  store := .create storage
  sessions := fun _ => .create

/-- Runs a line in the session of the given number. -/
def line (service : Service) (number : Nat) (text : String) : Service × Outcome :=
  let (session, store, outcome) := (service.sessions number).run service.store text
  ({ store, sessions := fun other => if other = number then session else service.sessions other },
    outcome)

/-- The service with another storage behind its store. -/
def withStorage (service : Service) (storage : Storage) : Service :=
  { service with store := { service.store with storage } }

/-- Makes the given calls of a folder's storage fail. -/
def fail (service : Service) (faults : Storage.Faults) : Service :=
  match service.store.storage.mode with
  | .folder _ => service.withStorage { service.store.storage with mode := .folder faults }
  | _ => service

/-- A new service on the same storage. -/
def restart (service : Service) : Service :=
  create service.store.storage

/-- What an event makes of a service, and the outcome of a line. -/
def handle (service : Service) : Event → Service × Option Outcome
  | .line number text =>
    let (service, outcome) := service.line number text
    (service, some outcome)
  | .fail faults => (service.fail faults, none)
  | .restart => (service.restart, none)

/-- What a history makes of a service, and the outcomes of its lines. -/
def handleAll (service : Service) : List Event → Service × List (Option Outcome)
  | [] => (service, [])
  | event :: rest =>
    let (service, outcome) := service.handle event
    let (service, outcomes) := service.handleAll rest
    (service, outcome :: outcomes)

end Service

end Rowbase
