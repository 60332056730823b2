import Rowbase.Proofs.TableInvariant

/-!
# The invariant of databases

Every table is kept under the key of its name and has the invariant of tables, whatever
changes have been tried on a database since it was made, and whether they failed or not. The
one condition is that no row is inserted at the last identity of 64 bits; a history with fewer
changes than there are identities meets it.
-/

namespace Rowbase.Database

variable {database changed : Database} {change : Change}

/-! ## What holds of every table -/

/-- Every table is kept under the key of its name, and the property holds of it. -/
def All (property : Table → Prop) (database : Database) : Prop :=
  ∀ key table, database.tables.find? key = some table →
    key = Name.key table.name ∧ property table

namespace All

variable {property later : Table → Prop}

theorem create (property : Table → Prop) (name : String) :
    (Database.create name).All property := by
  intro key table h
  simp [Database.create] at h

theorem mono (h : database.All property) (himp : ∀ table, property table → later table) :
    database.All later := by
  intro key table htable
  obtain ⟨hkey, hproperty⟩ := h key table htable
  exact ⟨hkey, himp table hproperty⟩

/-- A table may be put in the place of one with the same key. -/
theorem put (h : database.All property) {name : String} {table : Table}
    (hname : Name.key name = Name.key table.name) (htable : property table) :
    (database.put name table).All property := by
  intro key other hother
  simp only [Database.put, NameMap.find?_insert] at hother
  split at hother
  next heq =>
    cases hother
    exact ⟨heq ▸ hname, htable⟩
  · exact h key other hother

/-- What holds of new tables, of tables left alone and of the table that a step leaves, holds
of every table after a change. -/
theorem of_change (h : database.All property) (himp : ∀ table, property table → later table)
    (hcreate : ∀ name columns table, change = .createTable name columns →
      Table.create name columns = .ok table → later table)
    (hstep : ∀ table next, database.tables.find? (Name.key change.target) = some table →
      property table → table.Step change next → later next)
    (hchange : database.change change = .ok changed) : changed.All later := by
  have hlater := h.mono himp
  cases step_of_change hchange with
  | createTable _ created =>
      refine hlater.put ?_ (hcreate _ _ _ rfl created)
      rw [(Table.name_nextId_of_create created).1]
  | dropTable _ =>
      intro key table htable
      simp only [NameMap.find?_erase] at htable
      split at htable
      · simp at htable
      · exact hlater key table htable
  | onTable found step =>
      have hfound := table_eq_ok_iff.mp found
      obtain ⟨hkey, hproperty⟩ := h _ _ hfound
      refine hlater.put ?_ (hstep _ _ hfound hproperty step)
      rw [step.follows.name, hkey]

end All

/-- The check passes exactly the databases that have each table under the key of its name and
of whose tables the check of tables holds. -/
theorem isConsistent_iff : database.isConsistent = true ↔ database.All Table.Consistent := by
  rw [Database.isConsistent, List.all_eq_true]
  constructor
  · intro h key table htable
    have hentry := h (key, table) (NameMap.find?_eq_some_iff.mp htable)
    simp only [Bool.and_eq_true, decide_eq_true_eq] at hentry
    exact ⟨hentry.1, Table.isConsistent_iff.mp hentry.2⟩
  · rintro h ⟨key, table⟩ hentry
    obtain ⟨hkey, htable⟩ := h key table (NameMap.find?_eq_some_iff.mpr hentry)
    simp only [← hkey, Table.isConsistent_iff.mpr htable]
    simp

theorem All.isConsistent (h : database.All Table.Regular) : database.isConsistent = true :=
  isConsistent_iff.mpr (h.mono fun _ htable => htable.consistent)

/-- A database that passes the check still does so after a change, if no next identity is 0. -/
theorem All.consistent_of_change
    (h : database.All fun table => table.Consistent ∧ 1 ≤ table.nextId)
    (hchange : database.change change = .ok changed) :
    changed.All fun table => table.Consistent ∧ 1 ≤ table.nextId := by
  refine h.of_change (fun _ htable => htable) ?_ ?_ hchange
  · intro name columns table _ hcreate
    have hregular := Table.Regular.create hcreate
    exact ⟨hregular.consistent, hregular.nextPositive⟩
  · intro table next _ htable hstep
    refine ⟨htable.1.step (fun _ => htable.2) hstep, ?_⟩
    rw [hstep.follows.nextId]
    exact Nat.le_add_right_of_le htable.2

/-! ## One change -/

/-- Every table is kept under the key of its name and has the invariant of tables. -/
def WellFormed (database : Database) : Prop :=
  database.All Table.WellFormed

/-- Whether a change leaves all identities within 64 bits: it does not insert into a table
that has only the last of them left. -/
def hasRoom (database : Database) : Change → Bool
  | .insert name _ =>
    (database.tables.find? (Name.key name)).all fun table => table.nextId ≠ Table.idLimit - 1
  | _ => true

theorem nextId_ne_of_hasRoom (h : database.hasRoom change) {table : Table}
    (hfound : database.tables.find? (Name.key change.target) = some table) :
    ∀ name values, change = .insert name values → table.nextId ≠ Table.idLimit - 1 := by
  rintro name values rfl
  have hfound : database.tables.find? (Name.key name) = some table := hfound
  simpa [hasRoom, hfound] using h

/-- A change for which there is room leaves all identities within 64 bits. -/
theorem All.fits_of_change (h : database.All fun table => table.nextId < Table.idLimit)
    (hroom : database.hasRoom change) (hchange : database.change change = .ok changed) :
    changed.All fun table => table.nextId < Table.idLimit := by
  refine h.of_change (fun _ htable => htable) ?_ ?_ hchange
  · intro name columns table _ hcreate
    exact (Table.WellFormed.create hcreate).nextFits
  · intro table next hfound htable hstep
    exact hstep.nextId_lt htable (nextId_ne_of_hasRoom hroom hfound)

/-- No table has given out more identities than the given number. -/
def CountsWithin (database : Database) (bound : Nat) : Prop :=
  database.All fun table => table.nextId ≤ bound + 1

namespace WellFormed

theorem create (name : String) : (Database.create name).WellFormed :=
  All.create _ name

/-- Every successful change keeps the invariant, unless it inserts at the last identity. -/
theorem of_change (h : database.WellFormed) (hroom : database.hasRoom change)
    (hchange : database.change change = .ok changed) : changed.WellFormed := by
  refine All.of_change h (fun _ htable => htable) ?_ ?_ hchange
  · intro name columns table _ hcreate
    exact .create hcreate
  · intro table next hfound htable hstep
    exact htable.step hstep (nextId_ne_of_hasRoom hroom hfound)

theorem isConsistent (h : database.WellFormed) : database.isConsistent = true :=
  All.isConsistent (All.mono h fun _ htable => htable.toRegular)

end WellFormed

namespace CountsWithin

variable {bound : Nat}

theorem create (name : String) (bound : Nat) :
    (Database.create name).CountsWithin bound :=
  All.create _ name

theorem mono (h : database.CountsWithin bound) {larger : Nat} (hle : bound ≤ larger) :
    database.CountsWithin larger :=
  All.mono h fun _ hcount => Nat.le_trans hcount (Nat.succ_le_succ hle)

/-- A change gives out one identity at most. -/
theorem of_change (h : database.CountsWithin bound)
    (hchange : database.change change = .ok changed) : changed.CountsWithin (bound + 1) := by
  refine All.of_change h (fun _ hcount => Nat.le_succ_of_le hcount) ?_ ?_ hchange
  · intro name columns table _ hcreate
    rw [(Table.name_nextId_of_create hcreate).2]
    exact Nat.le_add_left 1 _
  · intro table next _ hcount hstep
    rw [hstep.follows.nextId]
    exact Nat.add_le_add hcount change.inserted_le_one

/-- There is room as long as fewer identities are given out than there are. -/
theorem hasRoom (h : database.CountsWithin bound) (hbound : bound + 2 < Table.idLimit)
    (change : Change) : database.hasRoom change = true := by
  cases change with
  | insert name values =>
      rw [Database.hasRoom, Option.all_eq_true]
      intro table htable
      obtain ⟨-, hcount⟩ := h _ _ htable
      simp only [decide_eq_true_eq]
      omega
  | _ => rfl

end CountsWithin

/-! ## Any number of tried changes -/

/-- The database after a change has been tried, whether it failed or not. -/
def attempt (database : Database) (change : Change) : Database :=
  match database.change change with
  | .ok changed => changed
  | .error _ => database

/-- The database after changes have been tried one after the other. -/
def attemptAll (database : Database) (changes : List Change) : Database :=
  changes.foldl attempt database

/-- Whether changes, tried one after the other, all leave identities within 64 bits. -/
def haveRoom (database : Database) : List Change → Bool
  | [] => true
  | change :: rest => database.hasRoom change && (database.attempt change).haveRoom rest

/-- What successful changes keep while there is room, tried changes keep. -/
theorem of_attemptAll (holds : Database → Prop)
    (hkeeps : ∀ {database changed : Database} {change : Change}, holds database →
      database.hasRoom change → database.change change = .ok changed → holds changed)
    (h : holds database) {changes : List Change} (hroom : database.haveRoom changes) :
    holds (database.attemptAll changes) := by
  induction changes generalizing database with
  | nil => exact h
  | cons change rest ih =>
      rw [haveRoom, Bool.and_eq_true] at hroom
      refine ih ?_ hroom.2
      unfold attempt
      split
      next hchange => exact hkeeps h hroom.1 hchange
      · exact h

theorem WellFormed.attemptAll (h : database.WellFormed) {changes : List Change}
    (hroom : database.haveRoom changes) : (database.attemptAll changes).WellFormed :=
  of_attemptAll WellFormed (fun h hroom hchange => h.of_change hroom hchange) h hroom

/-- Fewer changes than there are identities all have room. -/
theorem CountsWithin.haveRoom {bound : Nat} (h : database.CountsWithin bound)
    {changes : List Change} (hlength : bound + changes.length + 1 < Table.idLimit) :
    database.haveRoom changes = true := by
  induction changes generalizing database bound with
  | nil => rfl
  | cons change rest ih =>
      rw [List.length_cons] at hlength
      rw [Database.haveRoom, Bool.and_eq_true]
      refine ⟨h.hasRoom (by omega) change, ?_⟩
      have hafter : (database.attempt change).CountsWithin (bound + 1) := by
        unfold Database.attempt
        split
        next hchange => exact h.of_change hchange
        · exact h.mono (Nat.le_succ bound)
      exact ih hafter (by omega)

/-- Whatever changes have been tried on a new database, every table is kept under the key of
its name and has the invariant of tables, every column is found under its own name, and the
database passes the consistency check. -/
theorem invariant_of_attempts (name : String) (changes : List Change)
    (hroom : (Database.create name).haveRoom changes) :
    (∀ key table, ((Database.create name).attemptAll changes).tables.find? key = some table →
      key = Name.key table.name ∧ table.WellFormed ∧
        ∀ (index : Nat) (hlt : index < table.columns.length),
          table.columnIndex? table.columns[index] = some index) ∧
      ((Database.create name).attemptAll changes).isConsistent = true := by
  have hwell := (WellFormed.create name).attemptAll hroom
  refine ⟨?_, hwell.isConsistent⟩
  intro key table htable
  obtain ⟨hkey, hinvariant⟩ := hwell key table htable
  exact ⟨hkey, hinvariant, fun index hlt => hinvariant.columnIndex?_getElem hlt⟩

/-- Changes of which the third fails and the fifth deletes the only row. -/
def shopping : List Change :=
  [.createTable "Items" ["name"], .insert "ITEMS" [.text "pen"], .createTable "ITEMS" ["price"],
    .addColumn "items" "price", .delete "items" (.comparison "name" .equal (.text "pen")),
    .insert "items" [.text "ink", .null]]

theorem invariant_of_shopping :
    (Database.create "Shop").haveRoom shopping = true ∧
      (∀ key table, ((Database.create "Shop").attemptAll shopping).tables.find? key = some table →
        key = Name.key table.name ∧ table.WellFormed ∧
          ∀ (index : Nat) (hlt : index < table.columns.length),
            table.columnIndex? table.columns[index] = some index) ∧
      ((Database.create "Shop").attemptAll shopping).isConsistent = true := by
  have hroom : (Database.create "Shop").haveRoom shopping = true :=
    (CountsWithin.create "Shop" 0).haveRoom (by decide)
  exact ⟨hroom, invariant_of_attempts "Shop" shopping hroom⟩

end Rowbase.Database
