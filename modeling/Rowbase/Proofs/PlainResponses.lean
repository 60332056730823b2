import Rowbase.Proofs.DocumentRoundTrip
import Rowbase.Proofs.ListingRoundTrip
import Rowbase.Proofs.Paths
import Rowbase.Proofs.PlainListings
import Rowbase.Proofs.PlainMessages
import Rowbase.Proofs.StoreSteps
import Rowbase.Service

/-!
# Plain responses

Whatever lines are run, in whatever sessions, and whatever fails and is restarted in between, no
control character reaches a response but the tabs and line ends that lay out a listing. What
carries this through a history is that all databases are plain, those in use and those that the
folder has documents of.
-/

namespace Rowbase

/-! ## Folders -/

namespace Folder

variable {folder changed : Folder} {path : String} {good : ByteArray → Prop}

/-- Every file of the folder has good bytes, and the folder is at the given place. -/
structure Holds (place : String) (good : ByteArray → Prop) (folder : Folder) : Prop where
  path : folder.path = place
  files : ∀ path bytes, folder.entries.find? path = some (.file bytes) → good bytes

variable {place : String}

theorem Holds.read (h : folder.Holds place good) {bytes : ByteArray}
    (hread : folder.read path = .ok bytes) : good bytes := by
  obtain ⟨located, -, hfound⟩ := read_eq_ok_iff.mp hread
  exact h.files _ _ hfound

theorem Holds.write (h : folder.Holds place good) {bytes : ByteArray} (hbytes : good bytes)
    (hwrite : folder.write path bytes = .ok changed) : changed.Holds place good := by
  obtain ⟨located, -, -, rfl⟩ := put_eq_ok_iff.mp hwrite
  refine ⟨h.path, fun other content hcontent => ?_⟩
  simp only [NameMap.find?_insert] at hcontent
  split at hcontent
  · cases hcontent
    exact hbytes
  · exact h.files other content hcontent

theorem Holds.remove (h : folder.Holds place good) (hremove : folder.remove path = .ok changed) :
    changed.Holds place good := by
  obtain ⟨bytes, -, hremove⟩ := bind_eq_ok_iff.mp hremove
  obtain ⟨located, -, hchanged⟩ := bind_eq_ok_iff.mp hremove
  cases hchanged
  refine ⟨h.path, fun other content hcontent => ?_⟩
  simp only [NameMap.find?_erase] at hcontent
  split at hcontent
  · simp at hcontent
  · exact h.files other content hcontent

theorem Holds.rename (h : folder.Holds place good) {newPath : String}
    (hrename : folder.rename path newPath = .ok changed) : changed.Holds place good := by
  obtain ⟨bytes, hread, hrename⟩ := bind_eq_ok_iff.mp hrename
  obtain ⟨removed, hremove, hwrite⟩ := bind_eq_ok_iff.mp hrename
  exact (h.remove hremove).write (h.read hread) hwrite

end Folder

/-! ## Storages -/

theorem Unicode.isControl_toLower {c : Char} (h : isControl c = false) :
    isControl c.toLower = false := by
  unfold Char.toLower
  split
  next hupper =>
    have hge := UInt32.le_iff_toNat_le.mp hupper.1
    have hle := UInt32.le_iff_toNat_le.mp hupper.2
    simp only [isControl, Bool.or_eq_false_iff, Bool.and_eq_false_iff, decide_eq_false_iff_not,
      Char.toNat]
    simp at hge hle ⊢
    omega
  · exact h

theorem Name.plain_key {name : String} (h : Text.Plain name) : Text.Plain (Name.key name) := by
  intro c hc
  rw [Name.toList_key] at hc
  obtain ⟨before, hbefore, rfl⟩ := List.mem_map.mp hc
  exact Unicode.isControl_toLower (h before hbefore)

/-- The bytes of a plain database's document. -/
def PlainDocument (bytes : ByteArray) : Prop :=
  ∃ database : Database, database.All Table.Plain ∧ bytes = database.write.toUTF8

namespace Storage

variable {storage after : Storage} {place name : String} {database : Database}

theorem plain_fileName (h : Text.Plain name) : Text.Plain (fileName name) :=
  Token.plain_append (Name.plain_key h) (Text.plain_of_all (by decide))

theorem plain_faultOf (fault : FileFault) : Text.Plain (faultOf fault).message := by
  cases fault with
  | missing => exact Text.plain_of_all (by decide)
  | refused => exact Text.plain_of_all (by decide)
  | nulInName => exact Text.plain_of_all (by decide)

theorem plain_of_decode {bytes : ByteArray} (hbytes : PlainDocument bytes)
    (h : decode place bytes = .ok database) : database.All Table.Plain := by
  obtain ⟨written, hwritten, rfl⟩ := hbytes
  rw [eq_of_decode_write h]
  exact hwritten

theorem failsPlainly_decode (h : Text.Plain place) (bytes : ByteArray) :
    FailsPlainly StorageFault.message (decode place bytes) := by
  unfold decode
  split
  · exact failsPlainly_error (Text.plain_of_all (by decide))
  · split
    · exact failsPlainly_error (Text.plain_of_all (by decide))
    · split
      · exact failsPlainly_ok _
      · exact failsPlainly_error (Token.plain_append h (Text.plain_of_all (by decide)))

theorem plain_of_load (h : storage.folder.Holds place PlainDocument)
    (hload : storage.load name = .ok (some database)) : database.All Table.Plain := by
  unfold load at hload
  split at hload
  · simp at hload
  · simp at hload
  · split at hload
    · simp at hload
    · split at hload
      · simp at hload
      · simp at hload
      next bytes hread =>
        obtain ⟨found, hdecode, hfound⟩ := map_eq_ok_iff.mp hload
        cases hfound
        exact plain_of_decode (h.read hread) hdecode

/-- A load that fails has a plain message, if the name that was asked for is plain. -/
def LoadsPlainly (storage : Storage) : Prop :=
  ∀ name, Text.Plain name → FailsPlainly StorageFault.message (storage.load name)

theorem failsPlainly_load
    (hdecode : ∀ bytes, storage.folder.read (fileName name) = .ok bytes →
      FailsPlainly StorageFault.message
        (decode (storage.folder.path ++ "/" ++ fileName name) bytes)) :
    FailsPlainly StorageFault.message (storage.load name) := by
  unfold load
  split
  · exact failsPlainly_ok _
  · exact failsPlainly_ok _
  · split
    · exact failsPlainly_error (Text.plain_of_all (by decide))
    · split
      · exact failsPlainly_ok _
      next fault _ _ => exact failsPlainly_error (plain_faultOf fault)
      next bytes hread =>
        intro fault h
        exact hdecode bytes hread fault (map_eq_error_iff.mp h)

/-- A message may tell where the folder is. -/
theorem loadsPlainly_of_path (hpath : Text.Plain storage.folder.path) : storage.LoadsPlainly := by
  intro name hname
  have hslash : Text.Plain "/" := Text.plain_of_all (by decide)
  have hplace := Token.plain_append (Token.plain_append hpath hslash) (plain_fileName hname)
  exact failsPlainly_load fun bytes _ => failsPlainly_decode hplace bytes

/-- The document of a plain database is never found inconsistent. -/
theorem failsPlainly_decode_document {bytes : ByteArray} (hbytes : PlainDocument bytes)
    (path : String) : FailsPlainly StorageFault.message (decode path bytes) := by
  obtain ⟨written, hwritten, rfl⟩ := hbytes
  rw [decode, Text.fromUTF8?_toUTF8]
  simp only
  split
  · exact failsPlainly_error (Text.plain_of_all (by decide))
  next found hfound =>
    have hconsistent := (hwritten.mono fun _ htable => htable.toRegular).isConsistent
    rw [Database.eq_of_read?_write hfound, if_pos hconsistent]
    exact failsPlainly_ok _

/-- Where commands have written all documents, no message tells where the folder is. -/
theorem loadsPlainly_of_holds (h : storage.folder.Holds place PlainDocument) :
    storage.LoadsPlainly :=
  fun _ _ => failsPlainly_load fun _ hread => failsPlainly_decode_document (h.read hread) _

/-- A save leaves only documents of plain databases, and if it fails it fails plainly. -/
structure PlainSaving (place : String) (result : Storage × Saving) : Prop where
  holds : result.1.folder.Holds place PlainDocument
  fault : ∀ fault, result.2 = .failed fault → Text.Plain fault.message

theorem plain_saveIn {folder : Folder} (h : folder.Holds place PlainDocument)
    (hdatabase : database.All Table.Plain) :
    (saveIn folder database).1.Holds place PlainDocument ∧
      ∀ fault, (saveIn folder database).2 = .failed fault → Text.Plain fault.message := by
  unfold saveIn
  split
  next fault _ =>
    refine ⟨h, fun other hother => ?_⟩
    cases hother
    exact plain_faultOf fault
  next drafted hdrafted =>
    have hdraft := h.write ⟨database, hdatabase, rfl⟩ hdrafted
    split
    next fault _ =>
      refine ⟨hdraft, fun other hother => ?_⟩
      cases hother
      exact plain_faultOf fault
    next saved hsaved => exact ⟨hdraft.rename hsaved, fun other hother => by cases hother⟩

theorem plain_save (h : storage.folder.Holds place PlainDocument)
    (hdatabase : database.All Table.Plain) : PlainSaving place (storage.save database) := by
  unfold save
  split
  · exact ⟨h, fun fault hfault => by cases hfault⟩
  next stopping _ => exact ⟨h, fun fault hfault => by cases stopping <;> cases hfault⟩
  · split
    · refine ⟨h, fun fault hfault => ?_⟩
      cases hfault
      exact Text.plain_of_all (by decide)
    · exact ⟨(plain_saveIn h hdatabase).1, (plain_saveIn h hdatabase).2⟩

theorem failsPlainly_remove (storage : Storage) (name : String) :
    FailsPlainly StorageFault.message (storage.remove name) := by
  unfold remove
  split
  · exact failsPlainly_ok _
  · exact failsPlainly_ok _
  · split
    · exact failsPlainly_error (Text.plain_of_all (by decide))
    · split
      · exact failsPlainly_ok _
      next fault _ _ => exact failsPlainly_error (plain_faultOf fault)
      · exact failsPlainly_ok _

theorem holds_of_remove (h : storage.folder.Holds place PlainDocument)
    (hremove : storage.remove name = .ok after) : after.folder.Holds place PlainDocument := by
  unfold remove at hremove
  split at hremove
  · cases hremove
    exact h
  · cases hremove
    exact h
  · split at hremove
    · simp at hremove
    · split at hremove
      · cases hremove
        exact h
      · simp at hremove
      next folder hfolder =>
        cases hremove
        exact h.remove hfolder

end Storage

/-! ## Outcomes -/

/-- Nothing of an outcome's response is a control character, but what lays out its listing. -/
def Outcome.Plain : Outcome → Prop
  | .listing shown => shown.Plain
  | outcome => Text.Plain (Response.ofOutcome outcome)

namespace Outcome

theorem plain_done : Outcome.done.Plain :=
  Text.plain_of_all (by decide)

theorem plain_stopped : Outcome.stopped.Plain :=
  Text.plain_of_all (by decide)

theorem plain_failed {error : Error} (h : Text.Plain error.message) : (failed error).Plain :=
  Token.plain_append (Text.plain_of_all (by decide)) h

theorem plain_lost {fault : StorageFault} (h : Text.Plain fault.message) :
    (failed (.storage fault)).Plain :=
  plain_failed (Token.plain_append (Text.plain_of_all (by decide)) h)

end Outcome

/-! ## Stores -/

namespace Store

/-- All databases are plain, those in use and those that the folder has documents of. -/
structure Plain (place : String) (store : Store) : Prop where
  inUse : ∀ key database, store.databases.find? key = some database → database.All Table.Plain
  stored : store.storage.folder.Holds place PlainDocument

/-- A plain store and a plain outcome. -/
def PlainResult (place : String) (result : Store × Outcome) : Prop :=
  result.1.Plain place ∧ result.2.Plain

variable {place name : String} {store : Store}

theorem Plain.put (h : store.Plain place) {database : Database}
    (hdatabase : database.All Table.Plain) : (store.put name database).Plain place := by
  refine ⟨fun key other hother => ?_, h.stored⟩
  simp only [Store.put, NameMap.find?_insert] at hother
  split at hother
  · cases hother
    exact hdatabase
  · exact h.inUse key other hother

theorem Plain.withStorage (h : store.Plain place) {storage : Storage}
    (hstorage : storage.folder.Holds place PlainDocument) :
    Plain place { store with storage } :=
  ⟨h.inUse, hstorage⟩

/-- What is fetched from a plain store is plain, be it a database or an error. -/
theorem Plain.fetch (h : store.Plain place) (hloads : store.storage.LoadsPlainly)
    (hname : Text.Plain name) :
    (store.fetch name).1.Plain place ∧ FailsPlainly Error.message (store.fetch name).2 ∧
      ∀ database, (store.fetch name).2 = .ok database → database.All Table.Plain := by
  unfold Store.fetch
  split
  next database hfound =>
    refine ⟨h, failsPlainly_ok _, fun other hother => ?_⟩
    cases hother
    exact h.inUse _ _ hfound
  · split
    next fault hload =>
      have hfault := hloads name hname fault hload
      refine ⟨h, failsPlainly_error ?_, fun other hother => by cases hother⟩
      exact Token.plain_append (Text.plain_of_all (by decide)) hfault
    · refine ⟨h, failsPlainly_error ?_, fun other hother => by cases hother⟩
      exact hname.between (by decide)
    next database hload =>
      have hdatabase := Storage.plain_of_load h.stored hload
      refine ⟨h.put hdatabase, failsPlainly_ok _, fun other hother => ?_⟩
      cases hother
      exact hdatabase

theorem Plain.createDatabase (h : store.Plain place) (hname : Text.Plain name) :
    PlainResult place (store.createDatabase name) := by
  unfold Store.createDatabase
  split
  · exact ⟨h, Outcome.plain_failed (hname.between (by decide))⟩
  · have hcreated : (Database.create name).All Table.Plain := .create _ name
    have hsave := Storage.plain_save h.stored hcreated
    simp only
    split
    next storage hsaved =>
      rw [hsaved] at hsave
      exact ⟨(h.withStorage hsave.holds).put hcreated, Outcome.plain_done⟩
    next storage fault hfailed =>
      rw [hfailed] at hsave
      exact ⟨h.withStorage hsave.holds, Outcome.plain_lost (hsave.fault fault rfl)⟩
    next storage hstopped =>
      rw [hstopped] at hsave
      exact ⟨h.withStorage hsave.holds, Outcome.plain_stopped⟩

theorem Plain.dropDatabase (h : store.Plain place) (hname : Text.Plain name) :
    PlainResult place (store.dropDatabase name) := by
  unfold Store.dropDatabase
  split
  · split
    next fault hremove =>
      exact ⟨h, Outcome.plain_lost (Storage.failsPlainly_remove _ _ fault hremove)⟩
    next storage hremove =>
      refine ⟨⟨fun key database hfound => ?_, Storage.holds_of_remove h.stored hremove⟩,
        Outcome.plain_done⟩
      simp only [NameMap.find?_erase] at hfound
      split at hfound
      · simp at hfound
      · exact h.inUse key database hfound
  · exact ⟨h, Outcome.plain_failed (hname.between (by decide))⟩

theorem Plain.replace (h : store.Plain place) {made : Except Error Database}
    (hfails : FailsPlainly Error.message made)
    (hmade : ∀ changed, made = .ok changed → changed.All Table.Plain) :
    PlainResult place (store.replace name made) := by
  cases made with
  | error error => exact ⟨h, Outcome.plain_failed (hfails error rfl)⟩
  | ok changed =>
      have hchanged := hmade changed rfl
      have hsave := Storage.plain_save h.stored hchanged
      rw [Store.replace]
      split
      next storage hsaved =>
        rw [hsaved] at hsave
        exact ⟨(h.withStorage hsave.holds).put hchanged, Outcome.plain_done⟩
      next storage fault hfailed =>
        rw [hfailed] at hsave
        exact ⟨h.withStorage hsave.holds, Outcome.plain_lost (hsave.fault fault rfl)⟩
      next storage hstopped =>
        rw [hstopped] at hsave
        exact ⟨(h.withStorage hsave.holds).put hchanged, Outcome.plain_stopped⟩

theorem Plain.change (h : store.Plain place) (hloads : store.storage.LoadsPlainly)
    (hname : Text.Plain name) {change : Change} (hsound : change.Sound)
    (hnames : ∀ name ∈ change.mentioned, Text.Plain name) :
    PlainResult place (store.change name change) := by
  obtain ⟨hloaded, hfails, hfetched⟩ := h.fetch hloads hname
  rw [change_eq]
  refine hloaded.replace ?_ fun changed hmade => ?_
  · exact FailsOnly.bind hfails fun database => database.failsPlainly_change hnames
  · obtain ⟨database, hdatabase, hchange⟩ := bind_eq_ok_iff.mp hmade
    exact (hfetched database hdatabase).plain_of_change hsound hnames hchange

theorem Plain.query (h : store.Plain place) (hloads : store.storage.LoadsPlainly)
    (hname : Text.Plain name) {query : Query}
    (hnames : ∀ name ∈ query.mentioned, Text.Plain name) :
    PlainResult place (store.query name query) := by
  obtain ⟨hloaded, hfails, hfetched⟩ := h.fetch hloads hname
  rw [query_eq]
  refine ⟨hloaded, ?_⟩
  cases hanswer : (store.fetch name).2 >>= (·.query query) with
  | error error =>
      have hplain := FailsOnly.bind hfails fun database => database.failsPlainly_query hnames
      exact Outcome.plain_failed (hplain error hanswer)
  | ok listing =>
      obtain ⟨database, hdatabase, hquery⟩ := bind_eq_ok_iff.mp hanswer
      exact (hfetched database hdatabase).plain_query hquery

end Store

/-! ## Sessions -/

namespace Session

variable {place : String} {session : Session} {store : Store}

/-- The database that a session has chosen has a plain name. -/
def CurrentPlain (session : Session) : Prop :=
  ∀ name, session.current = some name → Text.Plain name

theorem plain_withCurrent (h : store.Plain place) (hcurrent : session.CurrentPlain)
    {action : String → Store × Outcome}
    (haction : ∀ name, Text.Plain name → Store.PlainResult place (action name)) :
    Store.PlainResult place (session.withCurrent store action) := by
  unfold withCurrent
  split
  next name hname => exact haction name (hcurrent name hname)
  · exact ⟨h, Outcome.plain_failed (Text.plain_of_all (by decide))⟩

/-- A sound command whose names are plain keeps everything plain. -/
theorem plain_execute (h : store.Plain place) (hloads : store.storage.LoadsPlainly)
    (hcurrent : session.CurrentPlain) {command : Command} (hsound : command.Sound)
    (hnames : ∀ name ∈ command.mentioned, Text.Plain name) :
    (session.execute store command).1.CurrentPlain ∧
      Store.PlainResult place (session.execute store command).2 := by
  cases command with
  | use name =>
      have hname := hnames name (.head _)
      obtain ⟨hloaded, hfails, -⟩ := h.fetch hloads hname
      unfold execute
      simp only
      split
      next loaded database hfetch =>
        rw [hfetch] at hloaded
        refine ⟨fun other hother => ?_, hloaded, Outcome.plain_done⟩
        cases hother
        exact Name.plain_key hname
      next loaded error hfetch =>
        rw [hfetch] at hloaded hfails
        exact ⟨hcurrent, hloaded, Outcome.plain_failed (hfails error rfl)⟩
  | createDatabase name => exact ⟨hcurrent, h.createDatabase (hnames name (.head _))⟩
  | dropDatabase name =>
      have hdrop := h.dropDatabase (hnames name (.head _))
      unfold execute
      simp only
      split
      next after hdone =>
        rw [hdone] at hdrop
        refine ⟨?_, hdrop⟩
        split
        · exact fun other hother => by cases hother
        · exact hcurrent
      next after outcome _ hother =>
        rw [hother] at hdrop
        exact ⟨hcurrent, hdrop⟩
  | change asked =>
      exact ⟨hcurrent, plain_withCurrent h hcurrent fun name hname =>
        h.change hloads hname hsound hnames⟩
  | query asked =>
      exact ⟨hcurrent, plain_withCurrent h hcurrent fun name hname =>
        h.query hloads hname hnames⟩

theorem plain_of_ofLine_error {line : String} {error : Error}
    (h : Command.ofLine line = .error error) : Text.Plain error.message := by
  unfold Command.ofLine at h
  split at h
  next fault hscan =>
    cases h
    have hfault := Token.failsPlainly_scanChars line.toList fault hscan
    exact Token.plain_append (Text.plain_of_all (by decide)) hfault
  next tokens hscan =>
    split at h
    next fault hread =>
      cases h
      have hfault := Command.plain_of_read (Token.sound_of_scanChars hscan) hread
      exact Token.plain_append (Text.plain_of_all (by decide)) hfault
    · simp at h

/-- A line keeps everything plain, whether it is a command or not. -/
theorem plain_run (h : store.Plain place) (hloads : store.storage.LoadsPlainly)
    (hcurrent : session.CurrentPlain) (line : String) :
    (session.run store line).1.CurrentPlain ∧
      Store.PlainResult place (session.run store line).2 := by
  unfold run
  split
  next command hcommand =>
    exact plain_execute h hloads hcurrent (Command.sound_of_ofLine hcommand)
      fun name hname => (Command.named_of_ofLine hcommand hname).plain
  next error herror =>
    exact ⟨hcurrent, h, Outcome.plain_failed (plain_of_ofLine_error herror)⟩

end Session

/-! ## Histories -/

namespace Service

/-- All databases and the names of those that are chosen are plain. -/
structure Plain (place : String) (service : Service) : Prop where
  store : service.store.Plain place
  sessions : ∀ number, (service.sessions number).CurrentPlain

variable {place : String} {service : Service}

theorem plain_create {storage : Storage} (h : storage.folder.Holds place PlainDocument) :
    (create storage).Plain place := by
  refine ⟨⟨fun key database hfound => ?_, h⟩, fun number name hname => ?_⟩
  · simp [create, Store.create] at hfound
  · simp [create, Session.create] at hname

/-- Every event leaves a plain service and has a plain outcome, if any. -/
theorem Plain.handle (h : service.Plain place)
    (hloads : service.store.storage.LoadsPlainly) (event : Event) :
    (service.handle event).1.Plain place ∧
      ∀ outcome, (service.handle event).2 = some outcome → outcome.Plain := by
  cases event with
  | line number text =>
      obtain ⟨hcurrent, hstore, houtcome⟩ :=
        Session.plain_run h.store hloads (h.sessions number) text
      refine ⟨⟨hstore, fun other => ?_⟩, fun outcome hout => ?_⟩
      · simp only [Service.handle, Service.line]
        split
        · exact hcurrent
        · exact h.sessions other
      · cases hout
        exact houtcome
  | fail faults =>
      refine ⟨?_, fun outcome hout => by cases hout⟩
      simp only [Service.handle]
      unfold Service.fail
      split
      · exact ⟨h.store.withStorage h.store.stored, h.sessions⟩
      · exact h
  | restart => exact ⟨plain_create h.store.stored, fun outcome hout => by cases hout⟩

/-- A history leaves a plain service, wherever its folder is. -/
theorem Plain.after (h : service.Plain place) (events : List Event) :
    (service.handleAll events).1.Plain place := by
  induction events generalizing service with
  | nil => exact h
  | cons event rest ih =>
      exact ih (h.handle (Storage.loadsPlainly_of_holds h.store.stored) event).1

theorem Plain.handleAll (h : service.Plain place) (hplace : Text.Plain place)
    {events : List Event} {outcome : Outcome}
    (houtcome : some outcome ∈ (service.handleAll events).2) : outcome.Plain := by
  induction events generalizing service with
  | nil => simp [Service.handleAll] at houtcome
  | cons event rest ih =>
      have hpath : Text.Plain service.store.storage.folder.path := by rwa [h.store.stored.path]
      obtain ⟨hafter, hfirst⟩ := h.handle (Storage.loadsPlainly_of_path hpath) event
      simp only [Service.handleAll, List.mem_cons] at houtcome
      rcases houtcome with hhead | hrest
      · exact hfirst outcome hhead.symm
      · exact ih hafter hrest

end Service

/-! ## Responses -/

namespace Response

/-- The only control characters of a listing's response stand between its lines and fields. -/
theorem control_of_mem_ofListing {listing : Listing} (h : listing.Plain) {c : Char}
    (hc : c ∈ (ofListing listing).toList) (hcontrol : Unicode.isControl c) :
    c = '\n' ∨ c = '\t' := by
  have hplain {text : String} (htext : Text.Plain text) : c ∉ text.toList := by
    intro hmem
    simp [htext c hmem] at hcontrol
  by_contra hneither
  obtain ⟨hend, htab⟩ := not_or.mp hneither
  have hmark := hplain (Text.plain_of_all (show okMark.toList.all _ by decide))
  obtain ⟨texts, htexts, text, htext, hc⟩ := (mem_ofListing_iff hmark htab hend).mp hc
  rcases List.mem_cons.mp htexts with rfl | hrow
  · exact hplain (h.header text htext) hc
  · exact hplain (h.rows texts hrow text htext) hc

theorem control_of_mem_ofOutcome {outcome : Outcome} (h : outcome.Plain) {c : Char}
    (hc : c ∈ (ofOutcome outcome).toList) (hcontrol : Unicode.isControl c) :
    (∃ listing, outcome = .listing listing) ∧ (c = '\n' ∨ c = '\t') := by
  cases outcome with
  | listing shown => exact ⟨⟨shown, rfl⟩, control_of_mem_ofListing h hc hcontrol⟩
  | done => simp [h c hc] at hcontrol
  | failed error => simp [h c hc] at hcontrol
  | stopped => simp [h c hc] at hcontrol

end Response

namespace Service

/-- In a service that starts with an empty folder, whatever lines are run and whatever fails and
is restarted, the header and the fields of every listing have no control character, and no
response has one but the tabs and line ends of a listing. -/
theorem plain_responses (mode : Storage.Mode) {path : String} (hpath : Text.Plain path)
    (events : List Event) :
    ∀ outcome, some outcome ∈ ((create { mode, folder := .create path }).handleAll events).2 →
      outcome.Plain ∧ ∀ c ∈ (Response.ofOutcome outcome).toList, Unicode.isControl c →
        (∃ listing, outcome = .listing listing) ∧ (c = '\n' ∨ c = '\t') := by
  intro outcome houtcome
  have hempty : (Folder.create path).Holds path PlainDocument :=
    ⟨rfl, fun place bytes hfile => by simp [Folder.create] at hfile⟩
  have hplain := (plain_create hempty).handleAll hpath houtcome
  exact ⟨hplain, fun c hc hcontrol => Response.control_of_mem_ofOutcome hplain hc hcontrol⟩

/-- A history of lines with tabs and an end mark in them, one of them after a restart. -/
def defaced : List Event :=
  [.line 0 "CREATE DATABASE\tshop;", .line 0 "USE shop;", .line 0 "CREATE TABLE t\n(v);",
    .line 0 "INSERT INTO t VALUES ('a\x04b');", .line 0 "INSERT INTO t VALUES ('a b');",
    .restart, .line 1 "USE shop;", .line 1 "SELECT * FROM t;", .line 1 "SELECT * FROM \x04;"]

theorem plain_responses_of_defaced :
    Text.Plain "data" ∧ ∀ outcome,
      some outcome ∈
          ((create { mode := .folder .none, folder := .create "data" }).handleAll defaced).2 →
        outcome.Plain ∧ ∀ c ∈ (Response.ofOutcome outcome).toList, Unicode.isControl c →
          (∃ listing, outcome = .listing listing) ∧ (c = '\n' ∨ c = '\t') := by
  have hpath : Text.Plain "data" := Text.plain_of_all (by decide)
  exact ⟨hpath, plain_responses (.folder .none) hpath defaced⟩

end Service

end Rowbase
