import Rowbase.Proofs.FailedCommands
import Rowbase.Proofs.RecasedCommands
import Rowbase.Session

/-!
# Running lines in other letters

Nothing that is found by name is found by one spelling and not by another. A command in other
letters therefore does what the command does, unless the name that it gives is kept: a database,
a table or a column has the spelling it was made with.
-/

namespace Rowbase

/-- Both computations give the same result, or both fail, with errors that are the same but for
the spelling of names. -/
abbrev Agree {α : Type} : Except Error α → Except Error α → Prop :=
  Parallel Error.Alike Eq

theorem Error.Alike.refl (error : Error) : Error.Alike error error := by
  cases error with
  | scan fault => exact .scan fault fault
  | parse fault => exact .parse fault fault
  | noDatabaseSelected => exact .noDatabaseSelected
  | unknownDatabase name => exact .unknownDatabase (.refl name)
  | unknownTable name => exact .unknownTable (.refl name)
  | unknownColumn name => exact .unknownColumn (.refl name)
  | databaseExists name => exact .databaseExists (.refl name)
  | tableExists name => exact .tableExists (.refl name)
  | columnExists name => exact .columnExists (.refl name)
  | identityColumn => exact .identityColumn
  | valueCount expected found => exact .valueCount expected found
  | storage fault => exact .storage fault

theorem Agree.refl {α : Type} (result : Except Error α) : Agree result result := by
  cases result with
  | error fault => exact .error (.refl fault)
  | ok value => exact .ok rfl

theorem Agree.eq_or_fail {α : Type} {first second : Except Error α} (h : Agree first second) :
    first = second ∨
      ∃ error other, first = .error error ∧ second = .error other ∧ error.Alike other := by
  rcases h with alike | heq
  · exact .inr ⟨_, _, rfl, rfl, alike⟩
  · exact .inl (congrArg _ heq)

/-- Computations that agree stay so if the same is done with their results. -/
theorem Agree.then {α β : Type} {first second : Except Error α} {next other : α → Except Error β}
    (h : Agree first second) (hnext : ∀ value, Agree (next value) (other value)) :
    Agree (first >>= next) (second >>= other) :=
  h.bind fun value _ heq => heq ▸ hnext value

theorem Agree.mapM {α β γ : Type} {related : α → β → Prop} {action : α → Except Error γ}
    {other : β → Except Error γ} {items : List α} {others : List β}
    (h : List.Forall₂ related items others)
    (haction : ∀ a b, related a b → Agree (action a) (other b)) :
    Agree (items.mapM action) (others.mapM other) := by
  refine (Parallel.mapM h haction).mono (fun _ _ halike => halike) fun values values' hsame => ?_
  rwa [List.forall₂_eq_eq_eq] at hsame

/-! ## Conditions -/

namespace Condition

variable {condition other : Condition} {field? : String → Option String}

theorem Alike.columns (h : condition.Alike other) :
    SameNames condition.columns other.columns := by
  induction h with
  | comparison same => exact .cons same .nil
  | and _ _ ihleft ihright => exact List.rel_append ihleft ihright
  | or _ _ ihleft ihright => exact List.rel_append ihleft ihright

theorem evaluate_agree (h : condition.Alike other)
    (hfield : ∀ name spelling, Name.Same name spelling → field? name = field? spelling) :
    Agree (condition.evaluate field?) (other.evaluate field?) := by
  induction h with
  | @comparison column spelling same =>
      unfold evaluate
      rw [hfield column spelling same]
      split
      · exact .error (.unknownColumn same)
      · exact .ok rfl
  | and _ _ ihleft ihright =>
      unfold evaluate
      rcases ihleft.eq_or_fail with heq | ⟨_, _, hleft, hleft', alike⟩
      · rw [heq]
        split
        · exact ihright
        · exact .refl _
      · rw [hleft, hleft']
        exact .error alike
  | or _ _ ihleft ihright =>
      unfold evaluate
      rcases ihleft.eq_or_fail with heq | ⟨_, _, hleft, hleft', alike⟩
      · rw [heq]
        split
        · exact ihright
        · exact .refl _
      · rw [hleft, hleft']
        exact .error alike

/-- The first name that is not known is at the same place. -/
theorem find?_unknown {known : String → Bool} {names others : List String}
    (h : SameNames names others)
    (hknown : ∀ name spelling, Name.Same name spelling → known name = known spelling) :
    Option.Rel Name.Same (names.find? fun name => !known name)
      (others.find? fun name => !known name) := by
  induction h with
  | nil => exact .none
  | @cons name spelling _ _ same _ ih =>
      rw [List.find?_cons, List.find?_cons, hknown name spelling same]
      split
      · exact .some same
      · exact ih

theorem validate_agree (h : condition.Alike other) {known : String → Bool}
    (hknown : ∀ name spelling, Name.Same name spelling → known name = known spelling) :
    Agree (condition.validate known) (other.validate known) := by
  have hfind := find?_unknown h.columns hknown
  unfold validate
  generalize condition.columns.find? (fun name => !known name) = unknown at hfind
  generalize other.columns.find? (fun name => !known name) = unknown' at hfind
  cases hfind with
  | none => exact .ok rfl
  | some same => exact .error (.unknownColumn same)

end Condition

/-! ## Tables -/

namespace Table

variable {table : Table} {name other : String} {condition condition' : Condition}

theorem columnIndex?_congr (h : Name.Same name other) :
    table.columnIndex? name = table.columnIndex? other := by
  have hsame : (fun column => decide (Name.Same column name)) =
      fun column => decide (Name.Same column other) := by
    funext column
    exact decide_eq_decide.mpr ⟨fun hname => hname.trans h, fun hother => hother.trans h.symm⟩
  rw [columnIndex?, columnIndex?, hsame]

theorem resolve_agree (h : Name.Same name other) :
    Agree (table.resolve name) (table.resolve other) := by
  rw [resolve, resolve, columnIndex?_congr h]
  split
  · exact .ok rfl
  · exact .error (.unknownColumn h)

theorem writable_agree (h : Name.Same name other) :
    Agree (table.writable name) (table.writable other) := by
  rw [writable, writable, columnIndex?_congr h]
  split
  · exact .error .identityColumn
  · exact .ok rfl
  · exact .error (.unknownColumn h)

theorem matching_agree (h : condition.Alike condition') :
    Agree (table.matching condition) (table.matching condition') := by
  have hindex : ∀ name spelling, Name.Same name spelling →
      table.columnIndex? name = table.columnIndex? spelling :=
    fun _ _ same => columnIndex?_congr same
  have hvalid := Condition.validate_agree h fun name spelling same =>
    congrArg Option.isSome (hindex name spelling same)
  refine hvalid.then fun _ => ?_
  have hrows : List.Forall₂ Eq table.rows table.rows := List.forall₂_same.mpr fun _ _ => rfl
  refine Agree.mapM hrows fun row _ heq => heq ▸ ?_
  exact Condition.evaluate_agree h fun name spelling same => by
    rw [field?, field?, hindex name spelling same]

theorem matchingAll_agree {condition condition' : Option Condition}
    (h : Option.Rel Condition.Alike condition condition') :
    Agree (table.matchingAll condition) (table.matchingAll condition') := by
  cases h with
  | none => exact .ok rfl
  | some halike => exact matching_agree halike

theorem wanted_agree {columns columns' : Option (List String)}
    (h : Option.Rel SameNames columns columns') :
    Agree (table.wanted columns) (table.wanted columns') := by
  cases h with
  | none => exact .ok rfl
  | some hsame => exact Agree.mapM hsame fun _ _ => resolve_agree

theorem select_agree {first second : Selection} (h : first.Alike second) :
    Agree (table.select first.columns first.condition)
      (table.select second.columns second.condition) := by
  refine (wanted_agree h.columns).then fun indices => ?_
  exact (matchingAll_agree h.condition).then fun marks => .ok rfl

theorem targets_agree {assignments others : List Assignment}
    (h : List.Forall₂ Assignment.Alike assignments others) :
    Agree (table.targets assignments) (table.targets others) := by
  refine Agree.mapM h fun assignment other halike => ?_
  refine (writable_agree halike.column).then fun index => ?_
  rw [halike.literal]
  exact .ok rfl

theorem update_agree {assignments others : List Assignment}
    (h : List.Forall₂ Assignment.Alike assignments others) (halike : condition.Alike condition') :
    Agree (table.update assignments condition) (table.update others condition') := by
  refine (targets_agree h).then fun targets => ?_
  exact (matching_agree halike).then fun marks => .ok rfl

theorem delete_agree (h : condition.Alike condition') :
    Agree (table.delete condition) (table.delete condition') :=
  (matching_agree h).then fun _ => .ok rfl

theorem dropColumn_agree (h : Name.Same name other) :
    Agree (table.dropColumn name) (table.dropColumn other) :=
  (writable_agree h).then fun _ => .ok rfl

end Table

/-! ## Databases -/

/-- Whether a change keeps the spelling of a name that it gives. -/
def Change.coinsName : Change → Bool
  | createTable _ _ | addColumn _ _ => true
  | dropTable _ | dropColumn _ _ | insert _ _ | update _ _ _ | delete _ _ => false

/-- Whether a command keeps the spelling of a name that it gives. -/
def Command.coinsName : Command → Bool
  | createDatabase _ => true
  | change made => made.coinsName
  | use _ | dropDatabase _ | query _ => false

namespace Database

variable {database : Database} {name other : String}

theorem table_agree (h : Name.Same name other) :
    Agree (database.table name) (database.table other) := by
  have hkey : Name.key name = Name.key other := h
  rw [table, table, hkey]
  split
  · exact .ok rfl
  · exact .error (.unknownTable h)

theorem put_congr (h : Name.Same name other) (table : Table) :
    database.put name table = database.put other table := by
  have hkey : Name.key name = Name.key other := h
  rw [put, put, hkey]

theorem onTable_agree {α : Type} (h : Name.Same name other)
    {operation operation' : Table → Except Error (Table × α)}
    (hoperation : ∀ table, Agree (operation table) (operation' table)) :
    Agree (database.onTable name operation) (database.onTable other operation') := by
  refine (table_agree h).then fun table => (hoperation table).then fun result => ?_
  exact .ok (congrArg (·, result.2) (put_congr h result.1))

theorem change_agree {change change' : Change} (h : change.Alike change')
    (hname : change.coinsName = false) :
    Agree (database.change change) (database.change change') := by
  cases h with
  | createTable => cases hname
  | addColumn => cases hname
  | dropTable same =>
      have hkey : Name.key _ = Name.key _ := same
      refine (table_agree same).then fun _ => ?_
      rw [hkey]
      exact .ok rfl
  | dropColumn same column =>
      refine (table_agree same).then fun table => ?_
      refine (Table.dropColumn_agree column).then fun _ => ?_
      rw [put_congr same]
      exact .ok rfl
  | insert same values =>
      exact (onTable_agree same fun table => .refl (table.insert values)).then fun _ => .ok rfl
  | update same assigned alike =>
      exact (onTable_agree same fun _ => Table.update_agree assigned alike).then fun _ => .ok rfl
  | delete same alike =>
      exact (onTable_agree same fun _ => Table.delete_agree alike).then fun _ => .ok rfl

theorem join_agree {first second : Join} (h : first.Alike second) :
    Agree (database.join first) (database.join second) := by
  refine (table_agree h.leftTable).then fun left => ?_
  refine (table_agree h.rightTable).then fun right => ?_
  refine (Table.resolve_agree h.leftColumn).then fun leftOn => ?_
  exact (Table.resolve_agree h.rightColumn).then fun rightOn => .ok rfl

theorem query_agree {first second : Query} (h : first.Alike second) :
    Agree (database.query first) (database.query second) := by
  cases h with
  | select alike => exact (table_agree alike.table).then fun _ => Table.select_agree alike
  | join alike => exact join_agree alike

end Database

/-! ## Stores -/

namespace Storage

variable {storage : Storage} {name other : String}

theorem holds_congr (h : Name.Same name other) : storage.holds name = storage.holds other := by
  rw [holds, holds, fileName_congr h]

theorem load_congr (h : Name.Same name other) : storage.load name = storage.load other := by
  rw [load, load, fileName_congr h]

theorem remove_congr (h : Name.Same name other) : storage.remove name = storage.remove other := by
  rw [remove, remove, fileName_congr h]

end Storage

/-- The same outcome, or two failures whose errors are the same but for the spelling of names. -/
inductive Outcome.Alike : Outcome → Outcome → Prop where
  | refl (outcome : Outcome) : Alike outcome outcome
  | failed {error other : Error} (alike : error.Alike other) :
      Alike (.failed error) (.failed other)

namespace Store

/-- The same store, and outcomes that are the same but for the spelling of names in errors. -/
def SameEffect (first second : Store × Outcome) : Prop :=
  first.1 = second.1 ∧ first.2.Alike second.2

theorem SameEffect.refl (effect : Store × Outcome) : SameEffect effect effect :=
  ⟨rfl, .refl _⟩

theorem SameEffect.failed {error other : Error} (store : Store) (h : error.Alike other) :
    SameEffect (store, .failed error) (store, .failed other) :=
  ⟨rfl, .failed h⟩

variable {store : Store} {name other : String}

theorem holds_congr (h : Name.Same name other) : store.holds name = store.holds other := by
  have hkey : Name.key name = Name.key other := h
  rw [holds, holds, hkey, Storage.holds_congr h]

theorem fetch_agree (store : Store) (h : Name.Same name other) :
    (store.fetch name).1 = (store.fetch other).1 ∧
      Agree (store.fetch name).2 (store.fetch other).2 := by
  have hkey : Name.key name = Name.key other := h
  unfold fetch put
  rw [Storage.load_congr h, hkey]
  split
  · exact ⟨rfl, .ok rfl⟩
  · split
    · exact ⟨rfl, .error (.storage _)⟩
    · exact ⟨rfl, .error (.unknownDatabase h)⟩
    · exact ⟨rfl, .ok rfl⟩

theorem dropDatabase_sameEffect (store : Store) (h : Name.Same name other) :
    SameEffect (store.dropDatabase name) (store.dropDatabase other) := by
  have hkey : Name.key name = Name.key other := h
  rw [dropDatabase, dropDatabase, holds_congr h, Storage.remove_congr h, hkey]
  split
  · exact .refl _
  · exact .failed store (.unknownDatabase h)

theorem change_sameEffect (name : String) {change change' : Change} (h : change.Alike change')
    (hname : change.coinsName = false) :
    SameEffect (store.change name change) (store.change name change') := by
  unfold Store.change
  split
  · exact .refl _
  next fetched database _ =>
    rcases (database.change_agree h hname).eq_or_fail with heq | ⟨_, _, hfirst, hsecond, alike⟩
    · rw [heq]
      exact .refl _
    · rw [hfirst, hsecond]
      exact .failed fetched alike

theorem query_sameEffect (name : String) {query query' : Query} (h : query.Alike query') :
    SameEffect (store.query name query) (store.query name query') := by
  unfold Store.query
  split
  · exact .refl _
  next fetched database _ =>
    rcases (database.query_agree h).eq_or_fail with heq | ⟨_, _, hfirst, hsecond, alike⟩
    · rw [heq]
      exact .refl _
    · rw [hfirst, hsecond]
      exact .failed fetched alike

end Store

/-! ## Sessions -/

namespace Session

open Store (SameEffect)

variable {session : Session} {store : Store}

theorem withCurrent_sameEffect {action action' : String → Store × Outcome}
    (h : ∀ name, SameEffect (action name) (action' name)) :
    SameEffect (session.withCurrent store action) (session.withCurrent store action') := by
  unfold withCurrent
  split
  · exact h _
  · exact .refl _

theorem execute_alike {command other : Command} (h : command.Alike other)
    (hname : command.coinsName = false) :
    (session.execute store command).1 = (session.execute store other).1 ∧
      SameEffect (session.execute store command).2 (session.execute store other).2 := by
  cases h with
  | createDatabase => cases hname
  | @use database spelling same =>
      obtain ⟨hstore, hfetch⟩ := Store.fetch_agree store same
      have hkey : Name.key database = Name.key spelling := same
      simp only [execute]
      generalize store.fetch database = fetched at hstore hfetch
      generalize store.fetch spelling = fetched' at hstore hfetch
      obtain ⟨fetched, found⟩ := fetched
      obtain ⟨fetched', found'⟩ := fetched'
      obtain rfl : fetched = fetched' := hstore
      rcases hfetch with alike | _
      · exact ⟨rfl, .failed _ alike⟩
      · exact ⟨by rw [hkey], .refl _⟩
  | @dropDatabase database spelling same =>
      obtain ⟨hstore, hdrop⟩ := Store.dropDatabase_sameEffect store same
      have hkey : Name.key database = Name.key spelling := same
      simp only [execute]
      generalize store.dropDatabase database = dropped at hstore hdrop
      generalize store.dropDatabase spelling = dropped' at hstore hdrop
      obtain ⟨left, outcome⟩ := dropped
      obtain ⟨left', outcome'⟩ := dropped'
      obtain rfl : left = left' := hstore
      rcases hdrop with _ | alike
      · rw [hkey]
        exact ⟨rfl, .refl _⟩
      · exact ⟨rfl, .failed _ alike⟩
  | change alike =>
      exact ⟨rfl, withCurrent_sameEffect fun name => Store.change_sameEffect name alike hname⟩
  | query alike => exact ⟨rfl, withCurrent_sameEffect fun name => Store.query_sameEffect name alike⟩

/-- A line whose letters are in another case, but in its quoted texts, has the same effect. It
leaves the same session and the same store, and it is answered alike: both lines are done, or both
give the same listing, or both fail for the same reason. The line must not make anything, for that
keeps the spelling of its name. -/
theorem run_recased (session : Session) (store : Store) {line other : String}
    (h : Token.Recased line.toList other.toList)
    (hname : ∀ command, Command.ofLine line = .ok command → command.coinsName = false) :
    (session.run store line).1 = (session.run store other).1 ∧
      (session.run store line).2.1 = (session.run store other).2.1 ∧
      (session.run store line).2.2.Alike (session.run store other).2.2 := by
  have hline := Command.ofLine_parallel h
  unfold run
  generalize Command.ofLine line = command at hline hname
  generalize Command.ofLine other = command' at hline
  rcases hline with alike | alike
  · exact ⟨rfl, rfl, .failed alike⟩
  · exact execute_alike alike (hname _ rfl)

/-- A store with a database of one table, which has the given rows. -/
def petStore (rows : List Row) (nextId : Nat) : Store where
  databases := NameMap.empty.insert "zoo" {
    name := "Zoo"
    tables := NameMap.empty.insert "pets" {
      name := "Pets", columns := ["id", "Name"], rows, nextId } }
  storage := { mode := .memory, folder := .create "" }

theorem recased_insert : Token.Recased "INSERT INTO pets VALUES ('Rex');".toList
    "Insert into PETS values ('Rex');".toList := by
  have hend : Token.Recased [')', ';'] [')', ';'] :=
    .outside (by decide) rfl (.outside (by decide) rfl .nil)
  have htext : Token.Recased ('\'' :: ("Rex".toList ++ '\'' :: [')', ';']))
      ('\'' :: ("Rex".toList ++ '\'' :: [')', ';'])) :=
    hend.quoted (.inl rfl) (by decide)
  have hsame : Token.SameLetters "INSERT INTO pets VALUES (".toList
      "Insert into PETS values (".toList := by
    simp [Token.SameLetters]
  have hline := htext.append hsame (by simp [Token.IsQuote])
  simpa using hline

/-- `INSERT INTO pets VALUES ('Rex');` in other letters, but not in the text. -/
theorem run_recased_insert :
    Token.Recased "INSERT INTO pets VALUES ('Rex');".toList
        "Insert into PETS values ('Rex');".toList ∧
      (∀ command, Command.ofLine "INSERT INTO pets VALUES ('Rex');" = .ok command →
        command.coinsName = false) ∧
      Session.run { current := some "zoo" } (petStore [] 1) "INSERT INTO pets VALUES ('Rex');" =
        ({ current := some "zoo" }, petStore [["1", "Rex"]] 2, .done) ∧
      Session.run { current := some "zoo" } (petStore [] 1) "Insert into PETS values ('Rex');" =
        ({ current := some "zoo" }, petStore [["1", "Rex"]] 2, .done) := by
  have hread : Command.ofLine "INSERT INTO pets VALUES ('Rex');" =
      .ok (.change (.insert "pets" [.text "Rex"])) := by
    cbv
  have hcommand : ∀ command, Command.ofLine "INSERT INTO pets VALUES ('Rex');" = .ok command →
      command.coinsName = false := by
    rintro command h
    rw [hread] at h
    cases h
    rfl
  have hrun : Session.run { current := some "zoo" } (petStore [] 1)
      "INSERT INTO pets VALUES ('Rex');" =
        ({ current := some "zoo" }, petStore [["1", "Rex"]] 2, .done) := by
    rw [run, hread]
    cbv
  obtain ⟨hsession, hstore, houtcome⟩ :=
    run_recased { current := some "zoo" } (petStore [] 1) recased_insert hcommand
  rw [hrun] at hsession hstore houtcome
  refine ⟨recased_insert, hcommand, hrun, ?_⟩
  generalize Session.run _ _ "Insert into PETS values ('Rex');" = answered at *
  obtain ⟨session, store, outcome⟩ := answered
  obtain rfl : _ = session := hsession
  obtain rfl : _ = store := hstore
  cases houtcome
  rfl

end Session

end Rowbase
