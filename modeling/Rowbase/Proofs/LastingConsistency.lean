import Rowbase.Proofs.LoadedDatabases

/-!
# Consistency that lasts

A change to a database that passes the check leaves one that passes it, unless the change gives a
row the identity 0. The check admits a table that is about to do so, as no row of it has that
identity yet.
-/

namespace Rowbase

/-- A row with the identity 0 does not pass the check. -/
theorem Table.not_consistent_withRow {table : Table} (hzero : table.nextId = 0)
    (fields : List String) : ¬(table.withRow fields).Consistent := by
  intro h
  obtain ⟨ids, hids, -, hbounds⟩ := h.ascending
  have hmem : some 0 ∈ ids.map some := by
    rw [← hids, List.mem_map]
    refine ⟨toString table.nextId :: fields, by simp [withRow], ?_⟩
    rw [hzero]
    exact identity?_toString 0
  have hid : 0 ∈ ids := by simpa using hmem
  exact absurd (hbounds 0 hid).1 (by decide)

namespace Database

variable {database changed : Database} {change : Change}

/-! ## Insertions at identity 0 -/

/-- Whether a change inserts a row that gets the identity 0. -/
def insertsAtZero (database : Database) : Change → Bool
  | .insert name values =>
    (database.tables.find? (Name.key name)).any fun table =>
      table.nextId = 0 && values.length = table.columns.length - 1
  | _ => false

/-- Whether any of the changes, tried one after the other, inserts a row that gets the identity
0. -/
def everInsertsAtZero (database : Database) : List Change → Bool
  | [] => false
  | change :: rest =>
    database.insertsAtZero change || (database.attempt change).everInsertsAtZero rest

theorem insertsAtZero_insert_iff {name : String} {values : List Literal} :
    database.insertsAtZero (.insert name values) = true ↔
      ∃ table, database.table name = .ok table ∧ table.nextId = 0 ∧
        values.length = table.columns.length - 1 := by
  simp [insertsAtZero, Option.any_eq_true, table_eq_ok_iff]

theorem not_isConsistent_attempt (h : database.insertsAtZero change = true) :
    (database.attempt change).isConsistent = false := by
  cases change with
  | insert name values =>
      obtain ⟨table, htable, hzero, hcount⟩ := insertsAtZero_insert_iff.mp h
      rw [attempt, change_insert htable hcount]
      apply Bool.eq_false_of_not_eq_true
      intro hconsistent
      have hall := isConsistent_iff.mp hconsistent (Name.key name)
        (table.withRow (values.map Literal.field)) (by simp [put])
      exact Table.not_consistent_withRow hzero _ hall.2
  | _ => cases h

theorem isConsistent_of_change (h : database.isConsistent)
    (hzero : database.insertsAtZero change = false)
    (hchange : database.change change = .ok changed) : changed.isConsistent = true := by
  rw [isConsistent_iff] at h ⊢
  refine h.of_change (fun _ htable => htable) ?_ ?_ hchange
  · intro name columns table _ hcreate
    exact (Table.Regular.create hcreate).consistent
  · intro table next hfound hconsistent hstep
    refine hconsistent.step (fun hinserted => ?_) hstep
    cases hstep with
    | @insert name values _ _ done =>
        obtain ⟨hcount, -⟩ := Table.insert_eq_ok_iff.mp done
        by_contra hnone
        have hinserts : database.insertsAtZero (.insert name values) = true :=
          insertsAtZero_insert_iff.mpr
            ⟨table, table_eq_ok_iff.mpr hfound, by omega, hcount⟩
        rw [hzero] at hinserts
        cases hinserts
    | _ => cases hinserted

/-- A change, whether it succeeds or fails, leaves a database that passes the check, unless it gives
a row the identity 0. -/
theorem isConsistent_attempt (h : database.isConsistent) (change : Change) :
    (database.attempt change).isConsistent = !database.insertsAtZero change := by
  cases hzero : database.insertsAtZero change with
  | true => exact not_isConsistent_attempt hzero
  | false =>
      unfold attempt
      split
      next hchange => exact isConsistent_of_change h hzero hchange
      · exact h

/-! ## Any number of tried changes -/

theorem attemptAll_cons (database : Database) (change : Change) (rest : List Change) :
    database.attemptAll (change :: rest) = (database.attempt change).attemptAll rest :=
  rfl

/-- All states on the way pass the check exactly if no change gives a row the identity 0. -/
theorem isConsistent_attemptAll_iff (h : database.isConsistent) (changes : List Change) :
    (∀ count, (database.attemptAll (changes.take count)).isConsistent = true) ↔
      database.everInsertsAtZero changes = false := by
  induction changes generalizing database with
  | nil => simpa [everInsertsAtZero, attemptAll] using h
  | cons change rest ih =>
      have hattempt := isConsistent_attempt h change
      rw [everInsertsAtZero, Bool.or_eq_false_iff]
      constructor
      · intro hall
        have hone : (database.attempt change).isConsistent = true := hall 1
        rw [hone, eq_comm, Bool.not_eq_true'] at hattempt
        exact ⟨hattempt, (ih hone).mp fun count => hall (count + 1)⟩
      · rintro ⟨hzero, hrest⟩ count
        rw [hzero] at hattempt
        cases count with
        | zero => exact h
        | succ count => exact (ih hattempt).mpr hrest count

/-- Where no next identity is 0, none becomes 0, and no row gets the identity 0. -/
theorem everInsertsAtZero_eq_false
    (h : database.All fun table => table.Consistent ∧ 1 ≤ table.nextId) (changes : List Change) :
    database.everInsertsAtZero changes = false := by
  induction changes generalizing database with
  | nil => rfl
  | cons change rest ih =>
      rw [everInsertsAtZero, Bool.or_eq_false_iff]
      constructor
      · cases change with
        | insert name values =>
            apply Bool.eq_false_of_not_eq_true
            intro hinserts
            obtain ⟨table, htable, hzero, -⟩ := insertsAtZero_insert_iff.mp hinserts
            have hpositive := (h _ _ (table_eq_ok_iff.mp htable)).2.2
            omega
        | _ => rfl
      · apply ih
        unfold attempt
        split
        next hchange => exact h.consistent_of_change hchange
        · exact h

/-- Whatever changes are tried on a database that passes the check, every state on the way passes it
unless a row gets the identity 0. Every state after any changes passes it exactly if no next
identity is 0. The document of a state is taken for a stored database if the state passes. -/
theorem lasting_consistency (h : database.isConsistent) :
    (∀ changes, (∀ count, (database.attemptAll (changes.take count)).isConsistent = true) ↔
        database.everInsertsAtZero changes = false) ∧
      ((∀ changes, (database.attemptAll changes).isConsistent = true) ↔
        ∀ key table, database.tables.find? key = some table → table.nextId ≠ 0) ∧
      (database.Fits → ∀ changes path, database.haveRoom changes →
        Storage.decode path (database.attemptAll changes).write.toUTF8 =
          if (database.attemptAll changes).isConsistent then .ok (database.attemptAll changes)
          else .error (.inconsistent path)) := by
  refine ⟨isConsistent_attemptAll_iff h, ⟨fun hall key table htable hzero => ?_, ?_⟩, ?_⟩
  · have hkey := (isConsistent_iff.mp h key table htable).1
    have hinserts : database.insertsAtZero
        (.insert table.name (.replicate (table.columns.length - 1) .null)) = true :=
      insertsAtZero_insert_iff.mpr
        ⟨table, table_eq_ok_iff.mpr (hkey ▸ htable), hzero, List.length_replicate⟩
    have hafter := hall [.insert table.name (.replicate (table.columns.length - 1) .null)]
    rw [attemptAll_cons, attemptAll, List.foldl_nil, not_isConsistent_attempt hinserts] at hafter
    cases hafter
  · intro hpositive changes
    have hall : database.All fun table => table.Consistent ∧ 1 ≤ table.nextId := by
      intro key table htable
      obtain ⟨hkey, hconsistent⟩ := isConsistent_iff.mp h key table htable
      exact ⟨hkey, hconsistent, Nat.pos_of_ne_zero (hpositive key table htable)⟩
    have hstates :=
      (isConsistent_attemptAll_iff h changes).mpr (everInsertsAtZero_eq_false hall changes)
    simpa using hstates changes.length
  · intro hfits changes path hroom
    have hlater := (Later.refl hfits h).attemptAll hroom
    exact Storage.decode_write_eq (fun key table htable => (hlater.fits key table htable).2) path

/-- A database whose only table is about to give a row the identity 0. -/
def zeroBased : Database where
  name := "d"
  tables := NameMap.empty.insert "t" {
    name := "t", columns := ["id", "v"], rows := [], nextId := 0 }

/-- After `INSERT INTO t VALUES (1);` the document is refused. -/
theorem lasting_consistency_zeroBased :
    zeroBased.isConsistent = true ∧
      (zeroBased.attemptAll [.insert "t" [.integer "1"]]).isConsistent = false ∧
      ¬(∀ changes, (zeroBased.attemptAll changes).isConsistent = true) ∧
      ∀ path,
        Storage.decode path (zeroBased.attemptAll [.insert "t" [.integer "1"]]).write.toUTF8 =
          .error (.inconsistent path) := by
  have hconsistent : zeroBased.isConsistent = true := by cbv
  have hafter : (zeroBased.attemptAll [.insert "t" [.integer "1"]]).isConsistent = false := by cbv
  have hfits : zeroBased.Fits := (fits_empty "d").insert "t" (by decide)
  have hroom : zeroBased.haveRoom [.insert "t" [.integer "1"]] = true := by decide +kernel
  have hfound : zeroBased.tables.find? "t" =
      some { name := "t", columns := ["id", "v"], rows := [], nextId := 0 } := by
    simp [zeroBased]
  obtain ⟨-, hclosed, hdecode⟩ := lasting_consistency hconsistent
  refine ⟨hconsistent, hafter, fun hall => hclosed.mp hall "t" _ hfound rfl, fun path => ?_⟩
  rw [hdecode hfits _ path hroom, hafter]
  rfl

end Database

end Rowbase
