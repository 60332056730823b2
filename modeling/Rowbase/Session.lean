import Rowbase.Store

/-!
# Sessions

A session remembers the key of the database it has chosen with USE. Many sessions can share a store.
-/

namespace Rowbase

/-- What is remembered from one command of a client to the next. -/
structure Session where
  current : Option String
  deriving DecidableEq, Repr

namespace Session

/-- A session that has chosen no database. -/
def create : Session where
  current := none

/-- Does something with the current database, which must have been chosen. -/
def withCurrent (session : Session) (store : Store)
    (action : String → Store × Outcome) : Store × Outcome :=
  match session.current with
  | some name => action name
  | none => (store, .failed .noDatabaseSelected)

/-- Executes a command. -/
def execute (session : Session) (store : Store) : Command → Session × Store × Outcome
  | .use name =>
    match store.fetch name with
    | (store, .ok _) => ({ current := some (Name.key name) }, store, .done)
    | (store, .error error) => (session, store, .failed error)
  | .createDatabase name => (session, store.createDatabase name)
  | .dropDatabase name =>
    match store.dropDatabase name with
    | (store, .done) =>
      (if session.current = some (Name.key name) then create else session, store, .done)
    | (store, outcome) => (session, store, outcome)
  | .change change => (session, session.withCurrent store (store.change · change))
  | .query query => (session, session.withCurrent store (store.query · query))

/-- Reads one line as a command and executes it. -/
def run (session : Session) (store : Store) (line : String) : Session × Store × Outcome :=
  match Command.ofLine line with
  | .ok command => session.execute store command
  | .error error => (session, store, .failed error)

end Session

end Rowbase
