import Rowbase.Proofs.SeparateDatabases

/-!
# Commands that only read

A command that chooses a database or asks a question writes and removes no file. It may load a
database that was only stored, so it can change the store, but not what the store has under any
name. No later command can tell stores apart that have the same contents over the same storage,
unless calls of the storage begin to fail: a database in use is then still there and one that is
only stored is not. As long as they do not, a question can be left out of a history.
-/

namespace Rowbase

/-! ## What a storage loads after other databases have changed -/

namespace Storage

variable {good : Database → Prop} {storage after : Storage} {name other : String}

theorem holds_of_load {database : Database} (h : storage.load name = .ok (some database)) :
    storage.holds name = true := by
  unfold load at h
  unfold holds
  split at h
  · cases h
  · cases h
  · split at h
    · cases h
    · split at h
      · cases h
      · cases h
      next hread =>
        simp only [Folder.isFile, hread]
        rfl

/-- A save that does not succeed leaves an orderly storage as it was. -/
theorem Orderly.save_of_ne_saved (h : storage.Orderly good) {database : Database}
    (hsimple : Name.Simple database.name) (hgood : good database) {saving : Saving}
    (hsave : storage.save database = (after, saving)) (hne : saving ≠ .saved) :
    after = storage := by
  rcases h.save_cases hsimple hgood with ⟨fault, hcase⟩ | ⟨-, ⟨-, hcase⟩ | ⟨-, hcase⟩⟩
  · rw [hcase] at hsave
    exact (congrArg Prod.fst hsave).symm
  · rw [hcase] at hsave
    exact absurd (congrArg Prod.snd hsave).symm hne
  · rw [hcase] at hsave
    exact (congrArg Prod.fst hsave).symm

/-- A save does not touch what is loaded under another name. -/
theorem Orderly.load_of_save (h : storage.Orderly good) {database : Database}
    (hsimple : Name.Simple database.name) (hgood : good database)
    (hne : Name.key database.name ≠ Name.key other) (hother : Name.Simple other) {saving : Saving}
    (hsave : storage.save database = (after, saving)) : after.load other = storage.load other := by
  have horderly : (Store.create storage).storage.Orderly good := h
  have hsame := Store.SameOn.save_other horderly hsimple hgood hne
  rw [Store.create, hsave] at hsame
  exact hsame.load_eq hother

/-- Neither does a removal. -/
theorem load_of_remove (hsimple : Name.Simple name) (hne : Name.key name ≠ Name.key other)
    (hother : Name.Simple other) (hremove : storage.remove name = .ok after) :
    after.load other = storage.load other := by
  have hfile : fileName name ≠ fileName other := fun heq => hne (key_eq_of_fileName_eq heq)
  have hsame : Store.SameOn other { databases := .empty, storage := after }
      { databases := .empty, storage } := by
    unfold Storage.remove at hremove
    split at hremove
    · cases hremove
      exact .refl _ _
    · cases hremove
      exact .refl _ _
    · split at hremove
      · cases hremove
      · split at hremove
        · cases hremove
          exact .refl _ _
        · cases hremove
        next folder hfolder =>
          cases hremove
          obtain ⟨bytes, -, hfolder⟩ := bind_eq_ok_iff.mp hfolder
          obtain ⟨place, hplace, hchanged⟩ := bind_eq_ok_iff.mp hfolder
          cases hchanged
          rw [locate_fileName hsimple] at hplace
          split at hplace
          · cases hplace
          · cases hplace
            exact ⟨rfl, by simp [hfile], rfl, rfl⟩
  exact hsame.load_eq hother

end Storage

namespace Store

variable {good : Database → Prop} {store left right : Store} {name other : String}
variable {storage : Storage}

/-! ## Contents -/

/-- What a store has under a name: the database in use, or else the one that is stored. -/
def content (store : Store) (name : String) : Except StorageFault (Option Database) :=
  match store.databases.find? (Name.key name) with
  | some database => .ok (some database)
  | none => store.storage.load name

/-- What comes of fetching a database, by what the store has under its name. -/
def fetched (name : String) : Except StorageFault (Option Database) → Except Error Database
  | .ok (some database) => .ok database
  | .ok none => .error (.unknownDatabase name)
  | .error fault => .error (.storage fault)

theorem content_congr (h : Name.key name = Name.key other) :
    store.content name = store.content other := by
  rw [content, content, h, Storage.load, Storage.load, Storage.fileName_congr h]

theorem content_put (store : Store) (name other : String) (database : Database) :
    (store.put name database).content other =
      if Name.key name = Name.key other then .ok (some database) else store.content other := by
  rw [content, put, NameMap.find?_insert]
  by_cases hkey : Name.key name = Name.key other
  · rw [if_pos hkey, if_pos hkey]
  · rw [if_neg hkey, if_neg hkey]
    rfl

theorem content_withStorage (h : storage.load name = store.storage.load name) :
    content { store with storage } name = store.content name := by
  rw [content, content, h]

/-- A fetch gives what the store has, and does not change what it has under any name. -/
theorem fetch_eq (store : Store) (name : String) :
    (store.fetch name).2 = fetched name (store.content name) ∧
      ∀ other, (store.fetch name).1.content other = store.content other := by
  unfold fetch
  cases hused : store.databases.find? (Name.key name) with
  | some database =>
      have hcontent : store.content name = .ok (some database) := by rw [content, hused]
      rw [hcontent]
      exact ⟨rfl, fun _ => rfl⟩
  | none =>
      have hcontent : store.content name = store.storage.load name := by rw [content, hused]
      rw [hcontent]
      cases hload : store.storage.load name with
      | error fault => exact ⟨rfl, fun _ => rfl⟩
      | ok stored =>
          cases stored with
          | none => exact ⟨rfl, fun _ => rfl⟩
          | some database =>
              refine ⟨rfl, fun other => ?_⟩
              rw [content_put]
              split
              next hkey => rw [← hload, ← hcontent, content_congr hkey]
              · rfl

/-- A name is taken if the store has a database under it, or if there is a file for it. -/
theorem holds_eq (store : Store) (name : String) :
    store.holds name =
      ((store.content name).toOption.join.isSome || store.storage.holds name) := by
  rw [holds, NameMap.contains, content]
  cases store.databases.find? (Name.key name) with
  | some database => rfl
  | none =>
      cases hload : store.storage.load name with
      | error fault => rfl
      | ok stored =>
          cases stored with
          | none => rfl
          | some database => simp [Storage.holds_of_load hload]

/-! ## Stores with the same contents -/

/-- Two stores over the same storage have the same under every name that can be asked for. -/
structure SameContents (left right : Store) : Prop where
  storage : left.storage = right.storage
  content : ∀ name, Name.Simple name → left.content name = right.content name

namespace SameContents

theorem refl (store : Store) : store.SameContents store :=
  ⟨rfl, fun _ _ => rfl⟩

theorem symm (h : left.SameContents right) : right.SameContents left :=
  ⟨h.storage.symm, fun name hsimple => (h.content name hsimple).symm⟩

theorem trans (h : left.SameContents store) (h' : store.SameContents right) :
    left.SameContents right :=
  ⟨h.storage.trans h'.storage,
    fun name hsimple => (h.content name hsimple).trans (h'.content name hsimple)⟩

theorem of_fetch (store : Store) (name : String) : (store.fetch name).1.SameContents store :=
  ⟨store.storage_fetch name, fun other _ => (store.fetch_eq name).2 other⟩

theorem holds (h : left.SameContents right) (hsimple : Name.Simple name) :
    left.holds name = right.holds name := by
  rw [holds_eq, holds_eq, h.content name hsimple, h.storage]

theorem fetch (h : left.SameContents right) (hsimple : Name.Simple name) :
    (left.fetch name).2 = (right.fetch name).2 ∧
      (left.fetch name).1.SameContents (right.fetch name).1 := by
  refine ⟨?_, ((of_fetch left name).trans h).trans (of_fetch right name).symm⟩
  rw [(left.fetch_eq name).1, (right.fetch_eq name).1, h.content name hsimple]

/-- Nothing has changed on either side. -/
theorem unsaved (h : left.SameContents right) (hsame : storage = left.storage) :
    SameContents { left with storage } { right with storage } := by
  subst hsame
  have hright : { right with storage := left.storage } = right := by rw [h.storage]
  rw [hright]
  exact h

/-- A database is put in use on both sides, over a storage that has changed for it alone. -/
theorem put (h : left.SameContents right)
    (hloads : ∀ other, Name.Simple other → Name.key name ≠ Name.key other →
      storage.load other = left.storage.load other) (database : Database) :
    SameContents (Store.put { left with storage } name database)
      (Store.put { right with storage } name database) := by
  refine ⟨rfl, fun other hother => ?_⟩
  rw [content_put, content_put]
  by_cases hkey : Name.key name = Name.key other
  · rw [if_pos hkey, if_pos hkey]
  · have hload := hloads other hother hkey
    have hright : storage.load other = right.storage.load other := by rw [hload, h.storage]
    rw [if_neg hkey, if_neg hkey, content_withStorage hload, content_withStorage hright,
      h.content other hother]

/-- A database is gone on both sides, in use and from the storage. -/
theorem erase (h : left.SameContents right)
    (hloads : ∀ other, Name.Simple other → Name.key name ≠ Name.key other →
      storage.load other = left.storage.load other) :
    SameContents { databases := left.databases.erase (Name.key name), storage }
      { databases := right.databases.erase (Name.key name), storage } := by
  refine ⟨rfl, fun other hother => ?_⟩
  simp only [Store.content, NameMap.find?_erase]
  by_cases hkey : Name.key name = Name.key other
  · rw [if_pos hkey, if_pos hkey]
  · have hload := hloads other hother hkey
    have hright : storage.load other = right.storage.load other := by rw [hload, h.storage]
    rw [if_neg hkey, if_neg hkey]
    exact ((content_withStorage hload).trans (h.content other hother)).trans
      (content_withStorage hright).symm

/-! ### The same command on both sides -/

theorem createDatabase (h : left.SameContents right) (horderly : left.Orderly good)
    (hlasting : Database.Lasting good) (hsimple : Name.Simple name) :
    (left.createDatabase name).2 = (right.createDatabase name).2 ∧
      (left.createDatabase name).1.SameContents (right.createDatabase name).1 := by
  have hnew : Name.Simple (Database.create name).name := hsimple
  unfold Store.createDatabase
  rw [h.holds hsimple, ← h.storage]
  split
  · exact ⟨rfl, h⟩
  · simp only
    rcases hsave : left.storage.save (Database.create name) with ⟨storage, saving⟩
    have hloads (other : String) (hother : Name.Simple other)
        (hne : Name.key name ≠ Name.key other) : storage.load other = left.storage.load other :=
      horderly.stored.load_of_save hnew (hlasting.create name) hne hother hsave
    have hsame (hne : saving ≠ .saved) : storage = left.storage :=
      horderly.stored.save_of_ne_saved hnew (hlasting.create name) hsave hne
    cases saving with
    | saved => exact ⟨rfl, h.put hloads _⟩
    | failed fault => exact ⟨rfl, h.unsaved (hsame (by simp))⟩
    | stopped => exact ⟨rfl, h.unsaved (hsame (by simp))⟩

theorem dropDatabase (h : left.SameContents right) (hsimple : Name.Simple name) :
    (left.dropDatabase name).2 = (right.dropDatabase name).2 ∧
      (left.dropDatabase name).1.SameContents (right.dropDatabase name).1 := by
  unfold Store.dropDatabase
  rw [h.holds hsimple, ← h.storage]
  split
  · cases hremove : left.storage.remove name with
    | error fault => exact ⟨rfl, h⟩
    | ok storage =>
        refine ⟨rfl, h.erase fun other hother hne => ?_⟩
        exact Storage.load_of_remove hsimple hne hother hremove
  · exact ⟨rfl, h⟩

theorem replace (h : left.SameContents right) (horderly : left.Orderly good)
    {made : Except Error Database}
    (hmade : ∀ changed, made = .ok changed →
      Name.key name = Name.key changed.name ∧ Name.Simple changed.name ∧ good changed) :
    (left.replace name made).2 = (right.replace name made).2 ∧
      (left.replace name made).1.SameContents (right.replace name made).1 := by
  cases made with
  | error error => exact ⟨rfl, h⟩
  | ok changed =>
      obtain ⟨hkey, hsimple, hgood⟩ := hmade changed rfl
      rw [Store.replace, Store.replace, ← h.storage]
      rcases hsave : left.storage.save changed with ⟨storage, saving⟩
      have hloads (other : String) (hother : Name.Simple other)
          (hne : Name.key name ≠ Name.key other) : storage.load other = left.storage.load other :=
        horderly.stored.load_of_save hsimple hgood (hkey ▸ hne) hother hsave
      cases saving with
      | saved => exact ⟨rfl, h.put hloads changed⟩
      | stopped => exact ⟨rfl, h.put hloads changed⟩
      | failed fault =>
          have hsame := horderly.stored.save_of_ne_saved hsimple hgood hsave (by simp)
          exact ⟨rfl, h.unsaved hsame⟩

theorem change (h : left.SameContents right) (horderly : left.Orderly good)
    (hlasting : Database.Lasting good) (hsimple : Name.Simple name) {change : Change}
    (hnames : ∀ name ∈ change.mentioned, Token.Named name) :
    (left.change name change).2 = (right.change name change).2 ∧
      (left.change name change).1.SameContents (right.change name change).1 := by
  obtain ⟨hfetched, hloaded⟩ := h.fetch hsimple
  rw [change_eq, change_eq, ← hfetched]
  exact hloaded.replace (horderly.fetch hsimple).1 fun _ =>
    horderly.changed hlasting hsimple hnames

theorem query (h : left.SameContents right) (hsimple : Name.Simple name) (query : Query) :
    (left.query name query).2 = (right.query name query).2 ∧
      (left.query name query).1.SameContents (right.query name query).1 := by
  obtain ⟨hfetched, hloaded⟩ := h.fetch hsimple
  rw [query_eq, query_eq, hfetched]
  exact ⟨rfl, hloaded⟩

end SameContents

end Store

/-! ## Sessions -/

namespace Session

variable {good : Database → Prop} {session : Session} {store left right : Store}

/-- A command that is no mutation touches neither the storage nor any content. -/
theorem contents_execute (session : Session) (store : Store) (command : Command)
    (hreads : command.mutates = false) :
    (session.execute store command).2.1.storage = store.storage ∧
      ∀ name, (session.execute store command).2.1.content name = store.content name := by
  cases command with
  | use name =>
      have hstorage := store.storage_fetch name
      have hcontent := (store.fetch_eq name).2
      rw [execute]
      split
      next hfetch => rw [hfetch] at hstorage hcontent; exact ⟨hstorage, hcontent⟩
      next hfetch => rw [hfetch] at hstorage hcontent; exact ⟨hstorage, hcontent⟩
  | query query =>
      rw [execute, withCurrent]
      split
      next name _ =>
        rw [Store.query_eq]
        exact ⟨store.storage_fetch name, (store.fetch_eq name).2⟩
      · exact ⟨rfl, fun _ => rfl⟩
  | createDatabase name => cases hreads
  | dropDatabase name => cases hreads
  | change change => cases hreads

/-- The session and the outcome are the same in both results, and the contents of the stores. -/
structure SameResult (left right : Session × Store × Outcome) : Prop where
  session : left.1 = right.1
  contents : left.2.1.SameContents right.2.1
  outcome : left.2.2 = right.2.2

theorem sameResult_withCurrent (action : Store → String → Store × Outcome)
    (h : left.SameContents right) (hcurrent : session.CurrentSimple)
    (haction : ∀ name, Name.Simple name →
      (action left name).2 = (action right name).2 ∧
        (action left name).1.SameContents (action right name).1) :
    SameResult (session, session.withCurrent left (action left))
      (session, session.withCurrent right (action right)) := by
  unfold withCurrent
  split
  next name hname =>
    obtain ⟨houtcome, hcontents⟩ := haction name (hcurrent name hname)
    exact ⟨rfl, hcontents, houtcome⟩
  · exact ⟨rfl, h, rfl⟩

/-- Every command has the same outcome on stores with the same contents, and leaves them so. -/
theorem sameResult_execute (h : left.SameContents right) (horderly : left.Orderly good)
    (hlasting : Database.Lasting good) (hcurrent : session.CurrentSimple) {command : Command}
    (hnames : ∀ name ∈ command.mentioned, Token.Named name) :
    SameResult (session.execute left command) (session.execute right command) := by
  cases command with
  | use name =>
      obtain ⟨hfetched, hloaded⟩ := h.fetch (Name.simple_of_named (hnames name (.head _)))
      rw [execute, execute]
      rcases hl : left.fetch name with ⟨leftLoaded, found⟩
      rcases hr : right.fetch name with ⟨rightLoaded, other⟩
      rw [hl, hr] at hfetched hloaded
      simp only at hfetched
      subst hfetched
      cases found with
      | error error => exact ⟨rfl, hloaded, rfl⟩
      | ok database => exact ⟨rfl, hloaded, rfl⟩
  | createDatabase name =>
      obtain ⟨houtcome, hcontents⟩ :=
        h.createDatabase horderly hlasting (Name.simple_of_named (hnames name (.head _)))
      exact ⟨rfl, hcontents, houtcome⟩
  | dropDatabase name =>
      obtain ⟨houtcome, hcontents⟩ := h.dropDatabase (Name.simple_of_named (hnames name (.head _)))
      rw [execute_dropDatabase, execute_dropDatabase]
      exact ⟨by rw [houtcome], hcontents, houtcome⟩
  | change change =>
      exact sameResult_withCurrent (fun store name => store.change name change) h hcurrent
        fun name hsimple => h.change horderly hlasting hsimple hnames
  | query query =>
      exact sameResult_withCurrent (fun store name => store.query name query) h hcurrent
        fun name hsimple => h.query hsimple query

theorem sameResult_run (h : left.SameContents right) (horderly : left.Orderly good)
    (hlasting : Database.Lasting good) (hcurrent : session.CurrentSimple) (line : String) :
    SameResult (session.run left line) (session.run right line) := by
  unfold run
  split
  next command hcommand =>
    exact sameResult_execute h horderly hlasting hcurrent fun _ => Command.named_of_ofLine hcommand
  · exact ⟨rfl, h, rfl⟩

end Session

/-! ## Histories -/

namespace Service

variable {good : Database → Prop} {service left right : Service}

/-- Services with the same sessions, whose stores have the same contents. -/
structure SameContents (left right : Service) : Prop where
  stores : left.store.SameContents right.store
  sessions : left.sessions = right.sessions

namespace SameContents

theorem line (h : left.SameContents right) (horderly : left.Orderly good)
    (hlasting : Database.Lasting good) (number : Nat) (text : String) :
    (left.line number text).2 = (right.line number text).2 ∧
      (left.line number text).1.SameContents (right.line number text).1 := by
  obtain ⟨hsession, hcontents, houtcome⟩ :=
    Session.sameResult_run h.stores horderly.store hlasting (horderly.simple number) text
  have hnumber : right.sessions number = left.sessions number :=
    (congrFun h.sessions number).symm
  refine ⟨?_, ?_, ?_⟩
  · simp only [Service.line, hnumber, houtcome]
  · simpa only [Service.line, hnumber] using hcontents
  · funext other
    simp only [Service.line, hnumber, hsession]
    rw [h.sessions]

/-- A question leaves the same sessions and contents. -/
theorem of_question (service : Service) (number : Nat) {text : String} {query : Query}
    (hquestion : Command.ofLine text = .ok (.query query)) :
    (service.line number text).1.SameContents service := by
  have hrun := Session.run_of_ofLine hquestion (service.sessions number) service.store
  obtain ⟨hstorage, hcontent⟩ :=
    Session.contents_execute (service.sessions number) service.store (.query query) rfl
  refine ⟨⟨?_, fun name _ => ?_⟩, ?_⟩
  · simpa only [Service.line, hrun] using hstorage
  · simpa only [Service.line, hrun] using hcontent name
  · funext other
    simp only [Service.line, hrun]
    split
    next heq => rw [heq]; rfl
    · rfl

theorem handle (h : left.SameContents right) (horderly : left.Orderly good)
    (hlasting : Database.Lasting good) {event : Event} (hsteady : ∀ faults, event ≠ .fail faults) :
    (left.handle event).2 = (right.handle event).2 ∧
      (left.handle event).1.SameContents (right.handle event).1 := by
  cases event with
  | line number text =>
      obtain ⟨houtcome, hafter⟩ := h.line horderly hlasting number text
      exact ⟨congrArg some houtcome, hafter⟩
  | fail faults => exact absurd rfl (hsteady faults)
  | restart =>
      have hrestart : left.restart = right.restart := by
        rw [restart, restart, h.stores.storage]
      exact ⟨rfl, by simp only [Service.handle, hrestart]; exact ⟨.refl _, rfl⟩⟩

theorem outcomes_handleAll (h : left.SameContents right) (horderly : left.Orderly good)
    (hlasting : Database.Lasting good) {events : List Event}
    (hsteady : ∀ event ∈ events, ∀ faults, event ≠ .fail faults) :
    (left.handleAll events).2 = (right.handleAll events).2 := by
  induction events generalizing left right with
  | nil => rfl
  | cons event rest ih =>
      obtain ⟨hfirst, hrest⟩ := List.forall_mem_cons.mp hsteady
      obtain ⟨houtcome, hafter⟩ := h.handle horderly hlasting hfirst
      have houtcomes := ih hafter (horderly.handle hlasting event) hrest
      simp only [Service.handleAll, houtcome, houtcomes]

end SameContents

/-- A command that chooses a database or asks a question touches no file and leaves what the store
has under every name, whether it succeeds or fails. In a history over a storage that is empty at
first, and whose calls do not begin to fail, a question can therefore be left out without a change
to the outcome of, or the response to, any other line. -/
theorem questions_leave_no_trace :
    (∀ (session : Session) (store : Store) (command : Command), command.mutates = false →
      let after := (session.execute store command).2.1
      after.storage = store.storage ∧ ∀ name, after.content name = store.content name) ∧
    ∀ (mode : Storage.Mode) (path : String) (before after : List Event) (number : Nat)
      (text : String) (query : Query), Command.ofLine text = .ok (.query query) →
      (∀ event ∈ before ++ after, ∀ faults, event ≠ .fail faults) →
        let service := create { mode, folder := .create path }
        let outcomes := (service.handleAll (before ++ .line number text :: after)).2
        outcomes.eraseIdx before.length = (service.handleAll (before ++ after)).2 ∧
          (outcomes.map (·.map Response.ofOutcome)).eraseIdx before.length =
            (service.handleAll (before ++ after)).2.map (·.map Response.ofOutcome) := by
  refine ⟨Session.contents_execute, ?_⟩
  intro mode path before after number text query hquestion hsteady service outcomes
  have horderly : service.Orderly fun _ => True := orderly_create (.create mode path)
  have hbefore := horderly.handleAll lasting_true before
  have hasked := hbefore.line lasting_true number text
  have hsame := (SameContents.of_question _ number hquestion).outcomes_handleAll hasked
    lasting_true (fun event hevent => hsteady event (List.mem_append_right _ hevent))
  have houtcomes : outcomes.eraseIdx before.length = (service.handleAll (before ++ after)).2 := by
    simp only [outcomes, handleAll_append]
    rw [List.eraseIdx_append_of_length_le (length_handleAll service before).le, length_handleAll,
      Nat.sub_self]
    exact congrArg _ hsame
  exact ⟨houtcomes, by rw [← houtcomes, List.eraseIdx_map]⟩

/-- A store over a folder in which a database is saved that nobody has asked for yet. -/
def closedShop : Store :=
  .create { mode := .folder .none, folder := (Storage.saveIn (.create "data") (.create "shop")).1 }

/-- A history in which a database is made and, after a restart, chosen in another session. -/
def reopened : List Event :=
  [.line 0 "CREATE DATABASE Shop;", .line 0 "USE shop;", .restart, .line 1 "USE SHOP;"]

theorem questions_leave_no_trace_shop :
    (let after := (Session.create.execute closedShop (.use "shop")).2.1
     Command.mutates (.use "shop") = false ∧ after.storage = closedShop.storage ∧
      ∀ name, after.content name = closedShop.content name) ∧
    let service := create { mode := .folder .none, folder := .create "data" }
    let rest := [.line 1 "DROP DATABASE shop;", .restart, .line 0 "USE shop;"]
    let outcomes := (service.handleAll (reopened ++ .line 1 "SELECT * FROM items;" :: rest)).2
    (∃ query, Command.ofLine "SELECT * FROM items;" = .ok (.query query)) ∧
      (∀ event ∈ reopened ++ rest, ∀ faults, event ≠ .fail faults) ∧
      outcomes.eraseIdx 4 = (service.handleAll (reopened ++ rest)).2 ∧
        (outcomes.map (·.map Response.ofOutcome)).eraseIdx 4 =
          (service.handleAll (reopened ++ rest)).2.map (·.map Response.ofOutcome) := by
  have hquestion : Command.ofLine "SELECT * FROM items;" =
      .ok (.query (.select { table := "items", columns := none, condition := none })) := by cbv
  have hsteady : ∀ event ∈ reopened ++ [.line 1 "DROP DATABASE shop;", .restart,
      .line 0 "USE shop;"], ∀ faults, event ≠ .fail faults := by
    simp [reopened]
  obtain ⟨hreads, hhistories⟩ := questions_leave_no_trace
  exact ⟨⟨rfl, hreads _ _ _ rfl⟩, ⟨_, hquestion⟩, hsteady,
    hhistories (.folder .none) "data" reopened _ 1 _ _ hquestion hsteady⟩

end Service

end Rowbase
