import Rowbase.Proofs.Outcomes
import Rowbase.Store

/-!
# Commands on tables in two steps

A command on the tables of a database fetches the database first. That is all a question does to
the store; a change goes on to save what it makes of the database and to put it in use.
-/

namespace Rowbase

/-- The outcome of a question by what is answered. -/
def Outcome.ofAnswer : Except Error Listing → Outcome
  | .error error => .failed error
  | .ok answer => .listing answer

namespace Store

theorem storage_fetch (store : Store) (name : String) :
    (store.fetch name).1.storage = store.storage := by
  unfold fetch
  split
  · rfl
  · split
    · rfl
    · rfl
    · rfl

/-- A question does to the store what fetching the database does. -/
theorem query_eq (store : Store) (name : String) (query : Query) :
    store.query name query =
      ((store.fetch name).1, .ofAnswer ((store.fetch name).2 >>= (·.query query))) := by
  unfold Store.query
  rcases store.fetch name with ⟨loaded, found⟩
  cases found with
  | error error => rfl
  | ok database =>
      simp only [ok_bind]
      cases database.query query with
      | error error => rfl
      | ok listing => rfl

/-- Saves what is made of a database and puts it in use, unless nothing could be made of it. -/
def replace (store : Store) (name : String) : Except Error Database → Store × Outcome
  | .error error => (store, .failed error)
  | .ok database =>
    match store.storage.save database with
    | (storage, .saved) => ({ store with storage }.put name database, .done)
    | (storage, .failed fault) => ({ store with storage }, .failed (.storage fault))
    | (storage, .stopped) => ({ store with storage }.put name database, .stopped)

/-- A change replaces the database that is fetched. -/
theorem change_eq (store : Store) (name : String) (change : Change) :
    store.change name change =
      (store.fetch name).1.replace name ((store.fetch name).2 >>= (·.change change)) := by
  unfold Store.change
  rcases store.fetch name with ⟨loaded, found⟩
  cases found with
  | error error => rfl
  | ok database =>
      simp only [ok_bind]
      cases database.change change with
      | error error => rfl
      | ok changed => rfl

end Store

end Rowbase
