import Rowbase.Proofs.SeparateDatabases
import Rowbase.Proofs.TableErrors

/-!
# Selected databases

A session remembers the key of the database it has chosen, and the database may be gone when it
is asked for. But only a DROP DATABASE that succeeds takes a database out of use, and the session
that drops its own database forgets it. A database that a session has chosen is therefore in use
until another session drops it, and as long as it is, the session never has to look for it in the
storage.
-/

namespace Rowbase

/-! ## Databases that stay in use -/

namespace Store

variable {store after : Store} {name key : String} {database : Database}

/-- Every database that was in use still is. -/
def Retains (before after : Store) : Prop :=
  ∀ key, before.databases.contains key → after.databases.contains key

namespace Retains

theorem refl (store : Store) : store.Retains store :=
  fun _ => id

theorem put (h : store.Retains after) (name : String) (database : Database) :
    store.Retains (after.put name database) := by
  intro key hkey
  rw [Store.put, NameMap.contains, NameMap.find?_insert]
  split
  · rfl
  · exact h key hkey

theorem fetch (store : Store) (name : String) : store.Retains (store.fetch name).1 := by
  unfold Store.fetch
  split
  · exact refl store
  · split
    · exact refl store
    · exact refl store
    · exact (refl store).put name _

theorem createDatabase (store : Store) (name : String) :
    store.Retains (store.createDatabase name).1 := by
  unfold Store.createDatabase
  split
  · exact refl store
  · simp only
    split
    next storage _ =>
      have hsame : store.Retains { store with storage } := fun _ => id
      exact hsame.put name _
    · exact fun _ => id
    · exact fun _ => id

theorem replace (store : Store) (name : String) (made : Except Error Database) :
    store.Retains (store.replace name made).1 := by
  cases made with
  | error error => exact refl store
  | ok changed =>
      have hsame (storage : Storage) : store.Retains { store with storage } := fun _ => id
      rw [Store.replace]
      split
      next storage _ => exact (hsame storage).put name changed
      next storage _ _ => exact hsame storage
      next storage _ => exact (hsame storage).put name changed

theorem change (store : Store) (name : String) (change : Change) :
    store.Retains (store.change name change).1 := by
  intro key hkey
  rw [change_eq]
  exact replace _ name _ key (fetch store name key hkey)

theorem query (store : Store) (name : String) (query : Query) :
    store.Retains (store.query name query).1 := by
  rw [query_eq]
  exact fetch store name

end Retains

/-- A database goes out of use only if it is dropped. -/
theorem contains_dropDatabase (h : store.databases.contains key)
    (hkept : (store.dropDatabase name).2 = .done → Name.key name ≠ key) :
    (store.dropDatabase name).1.databases.contains key := by
  unfold dropDatabase at hkept ⊢
  split
  next hholds =>
    rw [if_pos hholds] at hkept
    split
    · exact h
    next hremove =>
      rw [hremove] at hkept
      rw [NameMap.contains, NameMap.find?_erase, if_neg (hkept rfl)]
      exact h
  · exact h

/-! ## Databases in use -/

/-- What can come of a command on the tables of a database in use: it never fails for want of the
database, and for the storage only if it has changed the database and the save fails. -/
structure Answers (store : Store) (database : Database) (command : Command) (outcome : Outcome) :
    Prop where
  known : ∀ name, outcome ≠ .failed (.unknownDatabase name)
  unsaved : ∀ fault, outcome = .failed (.storage fault) →
    ∃ change changed, command = .change change ∧ database.change change = .ok changed ∧
      (store.storage.save changed).2 = .failed fault

variable {command : Command}

theorem answers_failed {names : List String} {error : Error} (h : Error.About names error) :
    store.Answers database command (.failed error) := by
  constructor
  · rintro name hfailed
    cases hfailed
    cases h
  · rintro fault hfailed
    cases hfailed
    cases h

theorem fetch_inUse (h : store.databases.find? (Name.key name) = some database) :
    store.fetch name = (store, .ok database) := by
  rw [fetch, h]

theorem answers_change (h : store.databases.find? (Name.key name) = some database)
    (change : Change) :
    store.Answers database (.change change) (store.change name change).2 := by
  rw [change_eq, fetch_inUse h, ok_bind]
  cases hchange : database.change change with
  | error error => exact answers_failed (database.failsOnly_change change error hchange)
  | ok changed =>
      rw [replace]
      rcases hsave : store.storage.save changed with ⟨storage, saving⟩
      cases saving with
      | saved => exact ⟨fun _ => by simp, fun _ => by simp⟩
      | stopped => exact ⟨fun _ => by simp, fun _ => by simp⟩
      | failed fault =>
          refine ⟨fun _ => by simp, fun other hother => ?_⟩
          cases hother
          exact ⟨change, changed, rfl, hchange, by rw [hsave]⟩

theorem answers_query (h : store.databases.find? (Name.key name) = some database)
    (query : Query) : store.Answers database (.query query) (store.query name query).2 := by
  rw [query_eq, fetch_inUse h, ok_bind]
  cases hquery : database.query query with
  | error error => exact answers_failed (database.failsOnly_query query error hquery)
  | ok listing => exact ⟨fun _ => by simp [Outcome.ofAnswer], fun _ => by simp [Outcome.ofAnswer]⟩

end Store

/-! ## Choosing and dropping -/

namespace Session

/-- The key of the database that a line has chosen. -/
def chosen? (line : String) (outcome : Outcome) : Option String :=
  match Command.ofLine line, outcome with
  | .ok (.use name), .done => some (Name.key name)
  | _, _ => none

/-- The key of the database that a line has dropped. -/
def dropped? (line : String) (outcome : Outcome) : Option String :=
  match Command.ofLine line, outcome with
  | .ok (.dropDatabase name), .done => some (Name.key name)
  | _, _ => none

variable {session : Session} {store : Store} {line key : String} {command : Command}
variable {database : Database}

theorem dropped?_of_ofLine {name : String} (hline : Command.ofLine line = .ok (.dropDatabase name))
    (outcome : Outcome) :
    dropped? line outcome = if outcome = .done then some (Name.key name) else none := by
  unfold dropped?
  rw [hline]
  cases outcome with
  | done => rfl
  | listing | failed | stopped => rfl

/-- A line keeps in use what it does not drop. -/
theorem contains_run (h : store.databases.contains key)
    (hkept : dropped? line (session.run store line).2.2 ≠ some key) :
    (session.run store line).2.1.databases.contains key := by
  cases hline : Command.ofLine line with
  | error error =>
      rw [run, hline]
      exact h
  | ok command =>
      rw [run_of_ofLine hline] at hkept ⊢
      cases command with
      | use name =>
          have hretains := Store.Retains.fetch store name key h
          rw [execute]
          split
          next hfetch => rwa [hfetch] at hretains
          next hfetch => rwa [hfetch] at hretains
      | createDatabase name => exact Store.Retains.createDatabase store name key h
      | dropDatabase name =>
          rw [execute_dropDatabase] at hkept ⊢
          refine Store.contains_dropDatabase h fun hdone hkey => hkept ?_
          rw [dropped?_of_ofLine hline, if_pos hdone, hkey]
      | change change =>
          rw [execute, withCurrent]
          split
          next name _ => exact Store.Retains.change store name change key h
          · exact h
      | query query =>
          rw [execute, withCurrent]
          split
          next name _ => exact Store.Retains.query store name query key h
          · exact h

/-- A database that has been chosen is in use, and is remembered by its key. -/
theorem contains_of_chosen? (h : chosen? line (session.run store line).2.2 = some key) :
    Name.key key = key ∧ (session.run store line).2.1.databases.contains key := by
  unfold chosen? at h
  split at h
  next name hline hdone =>
    cases h
    refine ⟨Name.key_key name, ?_⟩
    rw [run_of_ofLine hline, execute] at hdone ⊢
    split at hdone
    next hfetch =>
      rw [NameMap.contains, (Store.fetch_ok hfetch).1]
      rfl
    · simp at hdone
  · simp at h

/-- After a line, the session remembers what it has chosen with it. Otherwise it remembers what it
did before, unless it has dropped that. -/
theorem current_run (session : Session) (store : Store) (line : String) :
    (session.run store line).1.current =
      (chosen? line (session.run store line).2.2).or
        (if session.current = dropped? line (session.run store line).2.2 then none
          else session.current) := by
  have hkept : session.current = if session.current = none then none else session.current := by
    split
    next hcurrent => exact hcurrent
    · rfl
  cases hline : Command.ofLine line with
  | error error => simpa only [run, chosen?, dropped?, hline, Option.none_or] using hkept
  | ok command =>
      rw [run_of_ofLine hline]
      cases command with
      | use name =>
          rw [execute]
          split
          · simp only [chosen?, hline, Option.some_or]
          · simpa only [chosen?, dropped?, hline, Option.none_or] using hkept
      | dropDatabase name =>
          rw [execute_dropDatabase, dropped?_of_ofLine hline]
          simp only [chosen?, hline, Option.none_or]
          by_cases hdone : (store.dropDatabase name).2 = .done
          · simp only [hdone, true_and, if_true]
            split
            · rfl
            · rfl
          · simpa only [hdone, false_and, if_false] using hkept
      | createDatabase | change | query =>
          simpa only [execute, chosen?, dropped?, hline, Option.none_or] using hkept

/-- A line on the tables of a database in use is answered by that database. -/
theorem answers_run (hcurrent : session.current = some key) (hkey : Name.key key = key)
    (hused : store.databases.find? key = some database) (hline : Command.ofLine line = .ok command)
    (htables : Command.onTables line) :
    store.Answers database command (session.run store line).2.2 := by
  rw [← hkey] at hused
  rw [Command.onTables, hline] at htables
  rw [run_of_ofLine hline]
  cases command with
  | change change =>
      simpa only [execute, withCurrent, hcurrent] using Store.answers_change hused change
  | query query =>
      simpa only [execute, withCurrent, hcurrent] using Store.answers_query hused query
  | use | createDatabase | dropDatabase => simp at htables

/-- A session that has chosen no database is told so. -/
theorem run_of_current_none (hcurrent : session.current = none)
    (hline : Command.ofLine line = .ok command) (htables : Command.onTables line) :
    (session.run store line).2.2 = .failed .noDatabaseSelected := by
  rw [Command.onTables, hline] at htables
  rw [run_of_ofLine hline]
  cases command with
  | change change => rw [execute, withCurrent, hcurrent]
  | query query => rw [execute, withCurrent, hcurrent]
  | use | createDatabase | dropDatabase => simp at htables

end Session

/-! ## Histories -/

namespace Service

/-- A history with the outcomes of its lines. -/
def record (service : Service) (events : List Event) : List (Event × Option Outcome) :=
  events.zip (service.handleAll events).2

/-- Whether an event is a line with which the session of the number has chosen a database. -/
def chooses (number : Nat) : Event × Option Outcome → Bool
  | (.line other text, some outcome) => other = number && (Session.chosen? text outcome).isSome
  | _ => false

/-- Whether an event is a line with which another session has dropped the database of the key. -/
def dropsElsewhere (number : Nat) (key : String) : Event × Option Outcome → Bool
  | (.line other text, some outcome) => other ≠ number && Session.dropped? text outcome = some key
  | _ => false

/-- What has happened since a session last chose a database, the latest first. -/
def sinceChosen (number : Nat) (entries : List (Event × Option Outcome)) :
    List (Event × Option Outcome) :=
  entries.reverse.takeWhile fun entry => !chooses number entry

/-- Whether another session has dropped the database of a key since a session last chose one. -/
def droppedElsewhere (number : Nat) (key : String) (entries : List (Event × Option Outcome)) :
    Bool :=
  (sinceChosen number entries).any (dropsElsewhere number key)

variable {service : Service} {entries : List (Event × Option Outcome)} {number : Nat}
variable {key text : String} {command : Command}

theorem record_concat (service : Service) (events : List Event) (event : Event) :
    service.record (events ++ [event]) =
      service.record events ++ [(event, ((service.handleAll events).1.handle event).2)] := by
  rw [record, handleAll_append, List.zip_append (length_handleAll service events).symm]
  rfl

theorem record_cons (service : Service) (event : Event) (rest : List Event) :
    service.record (event :: rest) =
      (event, (service.handle event).2) :: (service.handle event).1.record rest :=
  rfl

@[simp] theorem sessions_fail (service : Service) (faults : Storage.Faults) :
    (service.fail faults).sessions = service.sessions := by
  unfold fail
  split
  · rfl
  · rfl

@[simp] theorem databases_fail (service : Service) (faults : Storage.Faults) :
    (service.fail faults).store.databases = service.store.databases := by
  unfold fail
  split
  · rfl
  · rfl

theorem droppedElsewhere_concat (number : Nat) (key : String)
    (entries : List (Event × Option Outcome)) (entry : Event × Option Outcome) :
    droppedElsewhere number key (entries ++ [entry]) =
      (!chooses number entry &&
        (dropsElsewhere number key entry || droppedElsewhere number key entries)) := by
  rw [droppedElsewhere, sinceChosen, List.reverse_concat, List.takeWhile_cons]
  cases chooses number entry with
  | true => rfl
  | false => rfl

theorem droppedElsewhere_own {outcome : Outcome} (hchosen : Session.chosen? text outcome = none) :
    droppedElsewhere number key (entries ++ [(.line number text, some outcome)]) =
      droppedElsewhere number key entries := by
  simp [droppedElsewhere_concat, chooses, dropsElsewhere, hchosen]

theorem droppedElsewhere_other {other : Nat} (hne : other ≠ number) (outcome : Outcome) :
    droppedElsewhere number key (entries ++ [(.line other text, some outcome)]) =
      (Session.dropped? text outcome = some key || droppedElsewhere number key entries) := by
  simp [droppedElsewhere_concat, chooses, dropsElsewhere, hne]

/-- Every database that a session has chosen is in use, unless another session has dropped it. -/
def Selects (service : Service) (entries : List (Event × Option Outcome)) : Prop :=
  ∀ number key, (service.sessions number).current = some key →
    Name.key key = key ∧
      (droppedElsewhere number key entries = false → service.store.databases.contains key)

namespace Selects

theorem line (h : service.Selects entries) (number : Nat) (text : String) :
    (service.line number text).1.Selects
      (entries ++ [(.line number text, some (service.line number text).2)]) := by
  intro other key hcurrent
  simp only [Service.line] at hcurrent ⊢
  split at hcurrent
  next hnumber =>
    -- the session's own line
    subst hnumber
    rw [Session.current_run] at hcurrent
    cases hchosen : Session.chosen? text ((service.sessions other).run service.store text).2.2 with
    | some chosen =>
        rw [hchosen, Option.some_or] at hcurrent
        cases hcurrent
        obtain ⟨hkey, hused⟩ := Session.contains_of_chosen? hchosen
        exact ⟨hkey, fun _ => hused⟩
    | none =>
        rw [hchosen, Option.none_or] at hcurrent
        split at hcurrent
        · simp at hcurrent
        next hkept =>
          obtain ⟨hkey, hused⟩ := h other key hcurrent
          rw [droppedElsewhere_own hchosen]
          refine ⟨hkey, fun hnot => Session.contains_run (hused hnot) ?_⟩
          rw [← hcurrent]
          exact Ne.symm hkept
  next hnumber =>
    -- a line of another session
    obtain ⟨hkey, hused⟩ := h other key hcurrent
    rw [droppedElsewhere_other (Ne.symm hnumber), Bool.or_eq_false_iff, decide_eq_false_iff_not]
    refine ⟨hkey, ?_⟩
    rintro ⟨hkept, hnot⟩
    exact Session.contains_run (hused hnot) hkept

theorem create (storage : Storage) : (create storage).Selects [] := by
  intro number key hcurrent
  cases hcurrent

theorem handle (h : service.Selects entries) (event : Event) :
    (service.handle event).1.Selects (entries ++ [(event, (service.handle event).2)]) := by
  cases event with
  | line number text => exact h.line number text
  | fail faults =>
      intro number key hcurrent
      rw [droppedElsewhere_concat]
      simp only [Service.handle, sessions_fail, databases_fail] at hcurrent ⊢
      exact h number key hcurrent
  | restart =>
      intro number key hcurrent
      cases hcurrent

/-- Throughout a history, whatever fails. -/
theorem handleAll (storage : Storage) (events : List Event) :
    ((Service.create storage).handleAll events).1.Selects
      ((Service.create storage).record events) := by
  induction events using List.reverseRecOn with
  | nil => exact create storage
  | append_singleton before event ih =>
      rw [record_concat, handleAll_append]
      exact ih.handle event

end Selects

/-- A session without a current database has none until it chooses one. -/
theorem current_handleAll_none {events : List Event}
    (hcurrent : (service.sessions number).current = none)
    (hevents : ∀ entry ∈ service.record events, chooses number entry = false) :
    ((service.handleAll events).1.sessions number).current = none := by
  induction events generalizing service with
  | nil => exact hcurrent
  | cons event rest ih =>
      rw [record_cons] at hevents
      obtain ⟨hevent, hrest⟩ := List.forall_mem_cons.mp hevents
      refine ih ?_ hrest
      cases event with
      | line other text =>
          simp only [handle, Service.line, chooses] at hevent ⊢
          split
          next hnumber =>
            subst hnumber
            rw [Session.current_run, hcurrent]
            simpa using hevent
          · exact hcurrent
      | fail faults => simpa only [handle, sessions_fail] using hcurrent
      | restart => rfl

/-- Whatever lines are run in whatever sessions, and whatever calls of the storage fail: the
current database of a session is remembered by its key, and it is in use unless another session has
dropped it since the session last chose a database. The tables of a database in use are never looked
for in the storage. Once the session has dropped it itself, in any spelling, no command on tables
is executed in the session until it has chosen a database again. -/
theorem selected_until_dropped (storage : Storage) (events : List Event) (number : Nat)
    (key : String) :
    let service := create storage
    let after := (service.handleAll events).1
    (after.sessions number).current = some key →
      Name.key key = key ∧
      (droppedElsewhere number key (service.record events) = false →
        ∃ database, after.store.databases.find? key = some database ∧
          ∀ text command, Command.ofLine text = .ok command → Command.onTables text →
            after.store.Answers database command (after.line number text).2) ∧
      ∀ text name, Command.ofLine text = .ok (.dropDatabase name) → Name.key name = key →
        (after.line number text).2 = .done →
          let dropped := (after.line number text).1
          ∀ rest, (∀ entry ∈ dropped.record rest, chooses number entry = false) →
            ∀ later command, Command.ofLine later = .ok command → Command.onTables later →
              ((dropped.handleAll rest).1.line number later).2 = .failed .noDatabaseSelected := by
  intro service after hcurrent
  obtain ⟨hkey, hused⟩ := Selects.handleAll storage events number key hcurrent
  refine ⟨hkey, fun hnot => ?_, ?_⟩
  · obtain ⟨database, hfound⟩ := Option.isSome_iff_exists.mp (hused hnot)
    exact ⟨database, hfound, fun text command hline htables =>
      Session.answers_run hcurrent hkey hfound hline htables⟩
  · intro text name hline hname hdone dropped rest hrest
    have hnone : (dropped.sessions number).current = none := by
      simp only [dropped, after, Service.line, if_true, Session.run_of_ofLine hline,
        Session.execute_dropDatabase] at hdone ⊢
      rw [if_pos ⟨hdone, hname ▸ hcurrent⟩]
      rfl
    intro later command hlater htables
    exact Session.run_of_current_none (current_handleAll_none hnone hrest) hlater htables

theorem chooses_record_other {other : Nat} (hne : other ≠ number) (service : Service)
    (text : String) :
    ∀ entry ∈ service.record [.line other text], chooses number entry = false := by
  simp [record, handleAll, handle, chooses, hne]

theorem line_dropDatabase {name : String} (hline : Command.ofLine text = .ok (.dropDatabase name))
    (htransient : service.store.storage.Transient)
    (hused : service.store.databases.contains (Name.key name)) (number : Nat) :
    (service.line number text).2 = .done := by
  simp only [line, Session.run_of_ofLine hline, Session.execute_dropDatabase,
    Store.dropDatabase_transient htransient, if_pos hused]

theorem transient_twoSessions : twoSessions.store.storage.Transient := by
  obtain ⟨hshop, hchosen⟩ := run_shop
  obtain ⟨hbank, hchosen'⟩ := run_bank
  rw [Store.inMemory] at hshop
  have hstore : twoSessions.store = shopStore.put "bank" (Database.create "bank") := by
    simp [twoSessions, twoChoices, handleAll, handle, line, create, hshop, hchosen, hbank, hchosen']
  rw [hstore]
  exact fun _ hmode => by cases hmode

/-- The first session has its database, as the second one has only chosen another. -/
theorem droppedElsewhere_twoChoices :
    droppedElsewhere 0 (Name.key "shop")
      ((create { mode := .memory, folder := .create "" }).record twoChoices) = false := by
  have hmaking : Command.ofLine "CREATE DATABASE bank;" = .ok (.createDatabase "bank") := by cbv
  have hchoosing : Command.ofLine "USE bank;" = .ok (.use "bank") := by cbv
  rw [droppedElsewhere, List.any_eq_false]
  rintro ⟨event, outcome⟩ hentry
  have hmem := List.mem_reverse.mp ((List.takeWhile_sublist _).subset hentry)
  have hevent : event ∈ twoChoices := (List.of_mem_zip hmem).1
  cases outcome with
  | none => simp [dropsElsewhere]
  | some outcome =>
      simp only [twoChoices, List.mem_cons, List.not_mem_nil, or_false] at hevent
      rcases hevent with rfl | rfl | rfl | rfl
      · simp [dropsElsewhere]
      · simp [dropsElsewhere]
      · simp [dropsElsewhere, Session.dropped?, hmaking]
      · simp [dropsElsewhere, Session.dropped?, hchoosing]

/-- The first session drops its database, and the second makes another one of that name. -/
theorem selected_until_dropped_shop :
    let storage : Storage := { mode := .memory, folder := .create "" }
    let dropped := (twoSessions.line 0 "DROP DATABASE Shop;").1
    let rest := [Event.line 1 "CREATE DATABASE shop;"]
    (twoSessions.sessions 0).current = some (Name.key "shop") ∧
      droppedElsewhere 0 (Name.key "shop") ((create storage).record twoChoices) = false ∧
      (∃ database, twoSessions.store.databases.find? (Name.key "shop") = some database ∧
        ∃ command, Command.ofLine "SELECT * FROM items;" = .ok command ∧
          twoSessions.store.Answers database command
            (twoSessions.line 0 "SELECT * FROM items;").2) ∧
      (twoSessions.line 0 "DROP DATABASE Shop;").2 = .done ∧
      (∀ entry ∈ dropped.record rest, chooses 0 entry = false) ∧
      ((dropped.handleAll rest).1.line 0 "SELECT * FROM items;").2 =
        .failed .noDatabaseSelected := by
  have hdropping : Command.ofLine "DROP DATABASE Shop;" = .ok (.dropDatabase "Shop") := by cbv
  have hkey : Name.key "Shop" = Name.key "shop" := by cbv
  have hasking : Command.ofLine "SELECT * FROM items;" =
      .ok (.query (.select { table := "items", columns := none, condition := none })) := by cbv
  have htables : Command.onTables "SELECT * FROM items;" := by
    rw [Command.onTables, hasking]
  obtain ⟨hcurrent, -⟩ := current_twoSessions
  obtain ⟨-, hused, hafter⟩ := selected_until_dropped { mode := .memory, folder := .create "" }
    twoChoices 0 (Name.key "shop") hcurrent
  obtain ⟨database, hfound, hanswers⟩ := hused droppedElsewhere_twoChoices
  have hdone : (twoSessions.line 0 "DROP DATABASE Shop;").2 = .done := by
    refine line_dropDatabase hdropping transient_twoSessions ?_ 0
    rw [hkey, NameMap.contains]
    exact Option.isSome_iff_exists.mpr ⟨database, hfound⟩
  have hrest : ∀ entry ∈ (twoSessions.line 0 "DROP DATABASE Shop;").1.record
      [.line 1 "CREATE DATABASE shop;"], chooses 0 entry = false :=
    chooses_record_other (by decide) _ _
  exact ⟨hcurrent, droppedElsewhere_twoChoices,
    ⟨database, hfound, _, hasking, hanswers _ _ hasking htables⟩, hdone, hrest,
    hafter _ _ hdropping hkey hdone _ hrest _ _ hasking htables⟩

end Service

end Rowbase
