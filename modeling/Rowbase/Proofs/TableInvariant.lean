import Rowbase.Database.Document
import Rowbase.Proofs.Changes

/-!
# The invariant of tables

A table made by commands has the column `id` first, no two columns of one name, a field for
every column in every row, and identities that ascend and stay below the next one. Each
operation on tables keeps this invariant, and a table that has it passes the consistency
check.
-/

namespace Rowbase

/-! ## Identities as text -/

theorem Decimal.ofDigits_toDigits (n : Nat) :
    Decimal.ofDigits (Nat.toDigits 10 n) = n := by
  rw [Decimal.ofDigits, ← Nat.ofDigitChars_eq_foldl, Nat.ofDigitChars_ten_toDigits]

theorem toList_toString (n : Nat) : (toString n).toList = Nat.toDigits 10 n :=
  Nat.toList_repr

theorem all_isDigit_toDigits (n : Nat) : (Nat.toDigits 10 n).all Char.isDigit = true := by
  rw [List.all_eq_true]
  intro c hc
  exact Nat.isDigit_of_mem_toDigits (by decide) (by decide) hc

namespace Table

/-- The decimal text of a number is read as that identity. -/
theorem identity?_toString (n : Nat) : identity? (toString n) = some n := by
  have hsign : ∀ rest, Nat.toDigits 10 n ≠ '+' :: rest := by
    intro rest h
    have hplus : ('+').isDigit = true :=
      Nat.isDigit_of_mem_toDigits (b := 10) (n := n) (by decide) (by decide) (by simp [h])
    exact absurd hplus (by decide)
  unfold identity?
  rw [toList_toString]
  split
  next rest h => exact absurd h (hsign rest)
  next =>
    simp [all_isDigit_toDigits, Decimal.ofDigits_toDigits, Nat.toDigits_ne_nil]

/-! ## Columns found by name -/

theorem columnIndex?_eq_some_iff {table : Table} {name : String} {index : Nat} :
    table.columnIndex? name = some index ↔
      ∃ h : index < table.columns.length, Name.Same table.columns[index] name ∧
        ∀ (other : Nat) (_ : other < table.columns.length), other < index →
          ¬Name.Same table.columns[other] name := by
  simp only [columnIndex?, List.findIdx?_eq_some_iff_getElem, decide_eq_true_eq]
  constructor
  · rintro ⟨hlt, hsame, hbefore⟩
    exact ⟨hlt, hsame, fun other _ hother => hbefore other hother⟩
  · rintro ⟨hlt, hsame, hbefore⟩
    exact ⟨hlt, hsame, fun other hother => hbefore other (Nat.lt_trans hother hlt) hother⟩

theorem columnIndex?_eq_none_iff {table : Table} {name : String} :
    table.columnIndex? name = none ↔ ∀ column ∈ table.columns, ¬Name.Same column name := by
  simp [columnIndex?, List.findIdx?_eq_none_iff]

theorem lt_of_resolve_eq_ok {table : Table} {name : String} {index : Nat}
    (h : table.resolve name = .ok index) : index < table.columns.length := by
  unfold resolve at h
  split at h
  next hfound =>
    cases h
    exact (columnIndex?_eq_some_iff.mp hfound).1
  · simp at h

/-- A name that does not find a column is that of none. -/
theorem missing_of_resolve_eq_error {table : Table} {name : String} {fault : Error}
    (h : table.resolve name = .error fault) :
    fault = .unknownColumn name ∧ ∀ column ∈ table.columns, ¬Name.Same column name := by
  unfold resolve at h
  split at h
  · simp at h
  next hnone =>
    cases h
    exact ⟨rfl, columnIndex?_eq_none_iff.mp hnone⟩

/-- Every column is found under its own name exactly if all names differ. -/
theorem columnIndex?_getElem_iff {table : Table} :
    (∀ (index : Nat) (hlt : index < table.columns.length),
        table.columnIndex? table.columns[index] = some index) ↔
      table.columns.Pairwise fun left right => ¬Name.Same left right := by
  rw [List.pairwise_iff_getElem]
  constructor
  · intro h left right hleft hright hlt hsame
    obtain ⟨-, -, hbefore⟩ := columnIndex?_eq_some_iff.mp (h right hright)
    exact hbefore left hleft hlt hsame
  · intro h index hlt
    exact columnIndex?_eq_some_iff.mpr
      ⟨hlt, .refl _, fun other hother hbefore => h other index hother hlt hbefore⟩

theorem writable_eq_ok_iff {table : Table} {name : String} {index : Nat} :
    table.writable name = .ok index ↔ 0 < index ∧ table.columnIndex? name = some index := by
  rw [writable]
  split
  next hzero =>
    refine iff_of_false nofun ?_
    rintro ⟨hpos, hindex⟩
    rw [hzero, Option.some.injEq] at hindex
    omega
  next found hne hfound =>
    rw [hfound, Except.ok.injEq, Option.some.injEq]
    refine ⟨fun heq => ⟨heq ▸ Nat.pos_of_ne_zero hne, heq⟩, And.right⟩
  next hnone => simp [hnone]

/-- A column that may be written to exists and is not that of the identities. -/
theorem lt_of_writable {table : Table} {name : String} {index : Nat}
    (h : table.writable name = .ok index) :
    0 < index ∧ index < table.columns.length := by
  obtain ⟨hpos, hindex⟩ := writable_eq_ok_iff.mp h
  exact ⟨hpos, (columnIndex?_eq_some_iff.mp hindex).1⟩

theorem not_same_of_checkNew {table : Table} {name : String}
    (h : table.checkNew name = .ok ()) :
    ∀ column ∈ table.columns, ¬Name.Same column name := by
  apply columnIndex?_eq_none_iff.mp
  unfold checkNew at h
  split at h
  · simp at h
  · split at h
    · simp at h
    next hnone => simpa using hnone

/-! ## Rows and their identities -/

/-- There is a column, and every row has a field for every column. -/
structure Rectangular (table : Table) : Prop where
  columns_ne_nil : table.columns ≠ []
  width : ∀ row ∈ table.rows, row.length = table.columns.length

/-- A later state of a table, after as many insertions as given: the identity column stays first,
and the identities of the rows are some of the earlier ones, and those used up by insertions. -/
structure Reshaped (table : Table) (inserted : Nat) (changed : Table) : Prop where
  first : changed.columns.head? = table.columns.head?
  width : ∀ row ∈ changed.rows, row.length = changed.columns.length
  heads : (changed.rows.map List.head?).Sublist
    (table.rows.map List.head? ++ List.replicate inserted (some (toString table.nextId)))
  nextId : changed.nextId = table.nextId + inserted

section Rows

variable {table changed : Table}

namespace Rectangular

theorem row_ne_nil (h : table.Rectangular) {row : Row} (hrow : row ∈ table.rows) : row ≠ [] := by
  intro hnil
  have hwidth := h.width row hrow
  rw [hnil, List.length_nil] at hwidth
  exact h.columns_ne_nil (List.length_eq_zero_iff.mp hwidth.symm)

theorem addColumn (h : table.Rectangular) {name : String}
    (hadd : table.addColumn name = .ok changed) : table.Reshaped 0 changed := by
  obtain ⟨_, -, hchanged⟩ := bind_eq_ok_iff.mp hadd
  cases hchanged
  refine ⟨List.head?_append_of_ne_nil _ h.columns_ne_nil, ?_, ?_, rfl⟩
  · intro row hrow
    obtain ⟨old, hold, rfl⟩ := List.mem_map.mp hrow
    simp [h.width old hold]
  · have hheads : (table.rows.map (· ++ [""])).map List.head? = table.rows.map List.head? := by
      rw [List.map_map]
      apply List.map_congr_left
      intro row hrow
      exact List.head?_append_of_ne_nil _ (h.row_ne_nil hrow)
    rw [List.replicate_zero, List.append_nil, hheads]

theorem dropColumn (h : table.Rectangular) {name : String}
    (hdrop : table.dropColumn name = .ok changed) : table.Reshaped 0 changed := by
  obtain ⟨index, hindex, hchanged⟩ := bind_eq_ok_iff.mp hdrop
  cases hchanged
  obtain ⟨hpos, hlt⟩ := lt_of_writable hindex
  have hhead {α : Type} (items : List α) : (items.eraseIdx index).head? = items.head? := by
    cases items with
    | nil => rfl
    | cons first rest =>
        obtain ⟨before, rfl⟩ := Nat.exists_eq_succ_of_ne_zero (Nat.ne_of_gt hpos)
        rfl
  refine ⟨hhead table.columns, ?_, ?_, rfl⟩
  · intro row hrow
    obtain ⟨old, hold, rfl⟩ := List.mem_map.mp hrow
    have hwidth := h.width old hold
    rw [List.length_eraseIdx_of_lt (hwidth ▸ hlt), List.length_eraseIdx_of_lt hlt, hwidth]
  · have hheads : (table.rows.map (·.eraseIdx index)).map List.head? =
        table.rows.map List.head? := by
      rw [List.map_map]
      apply List.map_congr_left
      intro row _
      exact hhead row
    rw [List.replicate_zero, List.append_nil, hheads]

/-- The new row has the next identity. -/
theorem insert (h : table.Rectangular) {values : List Literal} {id : Nat}
    (hinsert : table.insert values = .ok (changed, id)) : table.Reshaped 1 changed := by
  obtain ⟨hcount, -, rfl⟩ := insert_eq_ok_iff.mp hinsert
  have hpos := List.length_pos_iff.mpr h.columns_ne_nil
  refine ⟨rfl, ?_, ?_, rfl⟩
  · intro row hrow
    rcases List.mem_append.mp hrow with hold | hnew
    · exact h.width row hold
    · rw [List.mem_singleton.mp hnew, List.length_cons, List.length_map, hcount]
      exact Nat.sub_add_cancel hpos
  · rw [List.map_append]
    exact .refl _

end Rectangular

/-- An assignment beside the identity keeps the identity and the width of a row. -/
theorem assign_keeps {targets : List (Nat × String)} (htargets : ∀ target ∈ targets, 0 < target.1)
    (row : Row) : (assign targets row).head? = row.head? ∧
      (assign targets row).length = row.length := by
  induction targets generalizing row with
  | nil => exact ⟨rfl, rfl⟩
  | cons target rest ih =>
      have hpos := htargets target (.head _)
      obtain ⟨hhead, hlength⟩ := ih (fun other hother => htargets other (.tail _ hother))
        (row.set target.1 target.2)
      refine ⟨hhead.trans ?_, hlength.trans (List.length_set ..)⟩
      rw [List.head?_eq_getElem?, List.head?_eq_getElem?, List.getElem?_set_ne (Nat.ne_of_gt hpos)]

theorem pos_of_mem_targets {assignments : List Assignment} {targets : List (Nat × String)}
    (h : table.targets assignments = .ok targets) : ∀ target ∈ targets, 0 < target.1 := by
  intro target htarget
  obtain ⟨assignment, -, hassignment⟩ := exists_mem_of_mapM_eq_ok h htarget
  obtain ⟨index, hindex, hresult⟩ := bind_eq_ok_iff.mp hassignment
  cases hresult
  exact (lt_of_writable hindex).1

/-- There is one mark for each row. -/
theorem length_of_matching {condition : Condition} {marks : List Bool}
    (h : table.matching condition = .ok marks) : marks.length = table.rows.length := by
  obtain ⟨_, -, hmarks⟩ := bind_eq_ok_iff.mp h
  exact length_eq_of_mapM_eq_ok hmarks

theorem marked_sublist (marks : List Bool) (rows : List Row) :
    (marked marks rows).Sublist rows := by
  unfold marked
  induction rows generalizing marks with
  | nil => simp
  | cons row rest ih =>
      cases marks with
      | nil => simp
      | cons mark others =>
          cases mark with
          | true => simpa using ih others
          | false => simpa using (ih others).cons row

/-- At places that a row has, a projection leaves out nothing. -/
theorem map_some_project {fields : Row} {indices : List Nat}
    (h : ∀ index ∈ indices, index < fields.length) :
    (project fields indices).map some = indices.map (fields[·]?) := by
  rw [project, List.map_map]
  apply List.map_congr_left
  intro index hindex
  simp [h index hindex]

theorem project_range (fields : Row) :
    project fields (List.range fields.length) = fields := by
  apply List.ext_getElem
  · simp [project]
  · intro index _ hlt
    simp [project, hlt]

namespace Rectangular

theorem update (h : table.Rectangular) {assignments : List Assignment} {condition : Condition}
    {count : Nat} (hupdate : table.update assignments condition = .ok (changed, count)) :
    table.Reshaped 0 changed := by
  obtain ⟨targets, htargets, hupdate⟩ := bind_eq_ok_iff.mp hupdate
  obtain ⟨marks, hmarks, hchanged⟩ := bind_eq_ok_iff.mp hupdate
  cases hchanged
  have hpos := pos_of_mem_targets htargets
  refine ⟨rfl, ?_, ?_, rfl⟩
  · intro row hrow
    obtain ⟨⟨mark, old⟩, hold, rfl⟩ := List.mem_map.mp hrow
    have hwidth := h.width old (List.of_mem_zip hold).2
    cases mark with
    | true => exact (assign_keeps hpos old).2.trans hwidth
    | false => exact hwidth
  · have hrows : (marks.zip table.rows).map Prod.snd = table.rows :=
      List.map_snd_zip (Nat.le_of_eq (length_of_matching hmarks).symm)
    rw [List.replicate_zero, List.append_nil]
    conv_rhs => rw [← hrows]
    rw [List.map_map, List.map_map]
    convert List.Sublist.refl _ using 1
    apply List.map_congr_left
    rintro ⟨mark, row⟩ -
    cases mark with
    | true => exact (assign_keeps hpos row).1.symm
    | false => rfl

theorem delete (h : table.Rectangular) {condition : Condition} {count : Nat}
    (hdelete : table.delete condition = .ok (changed, count)) : table.Reshaped 0 changed := by
  obtain ⟨marks, -, hchanged⟩ := bind_eq_ok_iff.mp hdelete
  cases hchanged
  have hsublist := marked_sublist (marks.map not) table.rows
  refine ⟨rfl, fun row hrow => h.width row (hsublist.subset hrow), ?_, rfl⟩
  rw [List.replicate_zero, List.append_nil]
  exact hsublist.map List.head?

theorem step (h : table.Rectangular) {change : Change} (hstep : table.Step change changed) :
    table.Reshaped change.inserted changed := by
  cases hstep with
  | addColumn done => exact h.addColumn done
  | dropColumn done => exact h.dropColumn done
  | insert done => exact h.insert done
  | update done => exact h.update done
  | delete done => exact h.delete done

end Rectangular

/-- Identities that ascend from 1 on and are below the next one still do so when some of them
are left and the next one may have been used up. -/
theorem exists_ascending {α : Type} {write : Nat → α} {heads : List α} {ids : List Nat}
    {next inserted : Nat} (hascending : ids.Pairwise (· < ·))
    (hbounds : ∀ id ∈ ids, 1 ≤ id ∧ id < next) (hpos : 0 < inserted → 1 ≤ next)
    (hinserted : inserted ≤ 1)
    (hsub : heads.Sublist (ids.map write ++ List.replicate inserted (write next))) :
    ∃ kept : List Nat, heads = kept.map write ∧ kept.Pairwise (· < ·) ∧
      ∀ id ∈ kept, 1 ≤ id ∧ id < next + inserted := by
  rw [← List.map_replicate, ← List.map_append] at hsub
  obtain ⟨kept, hkept, hheads⟩ := List.sublist_map_iff.mp hsub
  have hall : (ids ++ List.replicate inserted next).Pairwise (· < ·) := by
    rw [List.pairwise_append]
    refine ⟨hascending, ?_, ?_⟩
    · rcases Nat.le_one_iff_eq_zero_or_eq_one.mp hinserted with rfl | rfl
      · exact .nil
      · exact List.pairwise_singleton _ _
    · intro id hid other hother
      rw [List.eq_of_mem_replicate hother]
      exact (hbounds id hid).2
  refine ⟨kept, hheads, hall.sublist hkept, fun id hid => ?_⟩
  rcases List.mem_append.mp (hkept.subset hid) with hold | hnew
  · obtain ⟨hlow, hhigh⟩ := hbounds id hold
    exact ⟨hlow, Nat.lt_add_right inserted hhigh⟩
  · obtain ⟨hne, rfl⟩ := List.mem_replicate.mp hnew
    have hlt := Nat.pos_of_ne_zero hne
    exact ⟨hpos hlt, Nat.lt_add_of_pos_right hlt⟩

end Rows

/-! ## The invariant -/

/-- The given numbers are the identities of rows, in order and as decimal texts. -/
def Numbered (rows : List Row) (ids : List Nat) : Prop :=
  rows.map List.head? = ids.map fun id => some (toString id)

/-- What holds of every table made by commands. -/
structure Regular (table : Table) : Prop where
  idFirst : table.columns.head? = some idColumn
  distinct : table.columns.Pairwise fun left right => ¬Name.Same left right
  width : ∀ row ∈ table.rows, row.length = table.columns.length
  /-- The identities ascend from 1 on and are below the next one. -/
  ascending : ∃ ids : List Nat, Numbered table.rows ids ∧ ids.Pairwise (· < ·) ∧
    ∀ id ∈ ids, 1 ≤ id ∧ id < table.nextId
  nextPositive : 1 ≤ table.nextId

/-- A regular table whose next identity is a number of 64 bits. -/
structure WellFormed (table : Table) : Prop extends Regular table where
  nextFits : table.nextId < idLimit

namespace Regular

variable {table changed : Table}

theorem rectangular (h : table.Regular) : table.Rectangular := by
  refine ⟨fun hnil => ?_, h.width⟩
  have hfirst := h.idFirst
  simp [hnil] at hfirst

/-- Every column is found under its own name. -/
theorem columnIndex?_getElem (h : table.Regular) {index : Nat}
    (hlt : index < table.columns.length) :
    table.columnIndex? table.columns[index] = some index :=
  columnIndex?_getElem_iff.mpr h.distinct index hlt

theorem of_reshaped (h : table.Regular) {inserted : Nat}
    (hreshaped : table.Reshaped inserted changed) (hinserted : inserted ≤ 1)
    (hdistinct : changed.columns.Pairwise fun left right => ¬Name.Same left right) :
    changed.Regular := by
  obtain ⟨ids, hnumbered, hascending, hbounds⟩ := h.ascending
  have hheads := hreshaped.heads
  rw [hnumbered] at hheads
  obtain ⟨kept, hkept⟩ :=
    exists_ascending hascending hbounds (fun _ => h.nextPositive) hinserted hheads
  refine ⟨hreshaped.first.trans h.idFirst, hdistinct, hreshaped.width, ⟨kept, ?_⟩, ?_⟩
  · rw [hreshaped.nextId]
    exact hkept
  · rw [hreshaped.nextId]
    exact Nat.le_add_right_of_le h.nextPositive

/-! ### Columns come and go -/

theorem addColumn (h : table.Regular) {name : String}
    (hadd : table.addColumn name = .ok changed) : changed.Regular := by
  refine h.of_reshaped (h.rectangular.addColumn hadd) (Nat.zero_le 1) ?_
  obtain ⟨_, hnew, hchanged⟩ := bind_eq_ok_iff.mp hadd
  cases hchanged
  rw [List.pairwise_append]
  refine ⟨h.distinct, List.pairwise_singleton _ _, ?_⟩
  intro column hcolumn other hother
  rw [List.mem_singleton.mp hother]
  exact not_same_of_checkNew hnew column hcolumn

theorem dropColumn (h : table.Regular) {name : String}
    (hdrop : table.dropColumn name = .ok changed) : changed.Regular := by
  refine h.of_reshaped (h.rectangular.dropColumn hdrop) (Nat.zero_le 1) ?_
  obtain ⟨index, -, hchanged⟩ := bind_eq_ok_iff.mp hdrop
  cases hchanged
  exact h.distinct.sublist (List.eraseIdx_sublist _ _)

theorem empty (name : String) :
    Regular { name, columns := [idColumn], rows := [], nextId := 1 } :=
  ⟨rfl, List.pairwise_singleton _ _, by simp, ⟨[], rfl, .nil, by simp⟩, Nat.le_refl 1⟩

/-- A new table has the invariant from the start, and so after each of its columns. -/
theorem create {name : String} {columns : List String}
    (hcreate : Table.create name columns = .ok changed) : changed.Regular := by
  refine of_foldlM_eq_ok Regular ?_ (.empty name) hcreate
  intro state column _ next hstate hadd
  exact hstate.addColumn hadd

/-! ### Rows come and go -/

theorem insert (h : table.Regular) {values : List Literal} {id : Nat}
    (hinsert : table.insert values = .ok (changed, id)) : changed.Regular := by
  refine h.of_reshaped (h.rectangular.insert hinsert) (Nat.le_refl 1) ?_
  obtain ⟨-, -, rfl⟩ := insert_eq_ok_iff.mp hinsert
  exact h.distinct

theorem update (h : table.Regular) {assignments : List Assignment} {condition : Condition}
    {count : Nat} (hupdate : table.update assignments condition = .ok (changed, count)) :
    changed.Regular := by
  refine h.of_reshaped (h.rectangular.update hupdate) (Nat.zero_le 1) ?_
  obtain ⟨_, -, hupdate⟩ := bind_eq_ok_iff.mp hupdate
  obtain ⟨_, -, hchanged⟩ := bind_eq_ok_iff.mp hupdate
  cases hchanged
  exact h.distinct

theorem delete (h : table.Regular) {condition : Condition} {count : Nat}
    (hdelete : table.delete condition = .ok (changed, count)) : changed.Regular := by
  refine h.of_reshaped (h.rectangular.delete hdelete) (Nat.zero_le 1) ?_
  obtain ⟨_, -, hchanged⟩ := bind_eq_ok_iff.mp hdelete
  cases hchanged
  exact h.distinct

/-- Every step of a table keeps the invariant. -/
theorem step (h : table.Regular) {change : Change} (hstep : table.Step change changed) :
    changed.Regular := by
  cases hstep with
  | addColumn done => exact h.addColumn done
  | dropColumn done => exact h.dropColumn done
  | insert done => exact h.insert done
  | update done => exact h.update done
  | delete done => exact h.delete done

end Regular

/-! ## The consistency check -/

/-- What is checked of a table. -/
structure Consistent (table : Table) : Prop where
  idFirst : ∃ column, table.columns.head? = some column ∧ Name.Same column idColumn
  width : ∀ row ∈ table.rows, row.length = table.columns.length
  /-- The identities ascend from 1 on and are below the next one, however they are written. -/
  ascending : ∃ ids : List Nat,
    table.rows.map (fun row => row.head?.bind identity?) = ids.map some ∧
      ids.Pairwise (· < ·) ∧ ∀ id ∈ ids, 1 ≤ id ∧ id < table.nextId

theorem ascending_iff {width next last : Nat} {rows : List Row} :
    Table.ascending width next last rows = true ↔
      (∀ row ∈ rows, row.length = width) ∧
        ∃ ids : List Nat, rows.map (fun row => row.head?.bind identity?) = ids.map some ∧
          (last :: ids).Pairwise (· < ·) ∧ ∀ id ∈ ids, id < next := by
  induction rows generalizing last with
  | nil =>
      refine iff_of_true rfl ⟨by simp, [], rfl, List.pairwise_singleton _ _, by simp⟩
  | cons row rest ih =>
      rw [Table.ascending]
      constructor
      · intro h
        split at h
        next id hid =>
          simp only [Bool.and_eq_true, decide_eq_true_eq] at h
          obtain ⟨⟨⟨hwidth, hlast⟩, hnext⟩, hrest⟩ := h
          obtain ⟨hwidths, ids, hids, hascending, hbounds⟩ := ih.mp hrest
          refine ⟨List.forall_mem_cons.mpr ⟨hwidth, hwidths⟩, id :: ids, ?_, ?_,
            List.forall_mem_cons.mpr ⟨hnext, hbounds⟩⟩
          · rw [List.map_cons, List.map_cons, hid, hids]
          · refine List.pairwise_cons.mpr ⟨List.forall_mem_cons.mpr ⟨hlast, ?_⟩, hascending⟩
            intro other hother
            exact Nat.lt_trans hlast ((List.pairwise_cons.mp hascending).1 other hother)
        · simp at h
      · rintro ⟨hwidths, ids, hids, hascending, hbounds⟩
        obtain ⟨hwidth, hwidths⟩ := List.forall_mem_cons.mp hwidths
        cases ids with
        | nil => simp at hids
        | cons id others =>
            obtain ⟨hid, hrest⟩ := List.cons.inj hids
            obtain ⟨hlast, hascending⟩ := List.pairwise_cons.mp hascending
            obtain ⟨hnext, hbounds⟩ := List.forall_mem_cons.mp hbounds
            have htail := ih.mpr ⟨hwidths, others, hrest, hascending, hbounds⟩
            simp only [hid, hwidth, hlast id (.head _), hnext, htail]
            simp

/-- The check passes exactly the tables of which it holds. -/
theorem isConsistent_iff {table : Table} : table.isConsistent = true ↔ table.Consistent := by
  rw [isConsistent, Bool.and_eq_true, ascending_iff, Option.any_eq_true]
  simp only [decide_eq_true_eq, List.pairwise_cons]
  constructor
  · rintro ⟨hfirst, hwidth, ids, hids, ⟨hpos, hascending⟩, hbounds⟩
    exact ⟨hfirst, hwidth, ids, hids, hascending, fun id hid => ⟨hpos id hid, hbounds id hid⟩⟩
  · rintro ⟨hfirst, hwidth, ids, hids, hascending, hbounds⟩
    exact ⟨hfirst, hwidth, ids, hids, ⟨fun id hid => (hbounds id hid).1, hascending⟩,
      fun id hid => (hbounds id hid).2⟩

theorem Regular.consistent {table : Table} (h : table.Regular) : table.Consistent := by
  obtain ⟨ids, hnumbered, hascending⟩ := h.ascending
  refine ⟨⟨idColumn, h.idFirst, Name.Same.refl _⟩, h.width, ids, ?_, hascending⟩
  have hread := congrArg (List.map (·.bind identity?)) hnumbered
  simpa only [List.map_map, Function.comp_def, Option.bind_some, identity?_toString] using hread

namespace Consistent

variable {table changed : Table}

theorem rectangular (h : table.Consistent) : table.Rectangular := by
  refine ⟨fun hnil => ?_, h.width⟩
  obtain ⟨column, hfirst, -⟩ := h.idFirst
  simp [hnil] at hfirst

/-- A table that passes the check still does so after a step, unless a row gets the identity 0. -/
theorem step (h : table.Consistent) {change : Change}
    (hpos : 0 < change.inserted → 1 ≤ table.nextId) (hstep : table.Step change changed) :
    changed.Consistent := by
  have hreshaped := h.rectangular.step hstep
  obtain ⟨ids, hids, hascending, hbounds⟩ := h.ascending
  have hheads := hreshaped.heads.map (·.bind identity?)
  simp only [List.map_append, List.map_map, Function.comp_def, List.map_replicate,
    Option.bind_some, identity?_toString] at hheads
  rw [hids] at hheads
  obtain ⟨kept, hkept⟩ :=
    exists_ascending hascending hbounds hpos change.inserted_le_one hheads
  refine ⟨?_, hreshaped.width, kept, ?_⟩
  · rw [hreshaped.first]
    exact h.idFirst
  · rw [hreshaped.nextId]
    exact hkept

end Consistent

/-! ## Identities of 64 bits -/

/-- A step leaves the next identity within 64 bits, unless it inserts at the last one. -/
theorem Step.nextId_lt {table changed : Table} {change : Change}
    (h : table.Step change changed) (hfits : table.nextId < idLimit)
    (hroom : ∀ name values, change = .insert name values → table.nextId ≠ idLimit - 1) :
    changed.nextId < idLimit := by
  rw [h.follows.nextId]
  cases change with
  | insert name values =>
      have hnext := hroom name values rfl
      rw [Change.inserted]
      omega
  | _ => exact hfits

namespace WellFormed

variable {table changed : Table}

theorem create {name : String} {columns : List String}
    (hcreate : Table.create name columns = .ok changed) : changed.WellFormed := by
  refine ⟨.create hcreate, ?_⟩
  rw [(name_nextId_of_create hcreate).2]
  exact Nat.one_lt_two_pow (by decide)

theorem step (h : table.WellFormed) {change : Change} (hstep : table.Step change changed)
    (hroom : ∀ name values, change = .insert name values → table.nextId ≠ idLimit - 1) :
    changed.WellFormed :=
  ⟨h.toRegular.step hstep, hstep.nextId_lt h.nextFits hroom⟩

end WellFormed

end Table

end Rowbase
