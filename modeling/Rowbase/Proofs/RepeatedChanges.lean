import Rowbase.Proofs.SelectedRows

/-!
# Repeated changes

An update or a deletion that has succeeded can be run again, and then changes nothing. The condition
of an update is judged anew on the rows that it has changed, so the second run may select fewer rows
than the first; but a row that it selects holds what is assigned already, and a row that was not
selected at first has not changed and is not selected now.
-/

namespace Rowbase

namespace Table

/-- A row as an update leaves it. -/
def revised (table : Table) (assignments : List Assignment) (condition : Condition) (row : Row) :
    Row :=
  if table.meets condition row then table.assigned assignments row else row

variable {table changed : Table} {condition : Condition} {assignments : List Assignment}
variable {count : Nat}

/-! ## What a success tells -/

theorem known_of_matching {marks : List Bool} (h : table.matching condition = .ok marks) :
    ∀ name ∈ condition.columns, (table.columnIndex? name).isSome := by
  obtain ⟨_, hvalid, -⟩ := bind_eq_ok_iff.mp h
  exact Condition.validate_eq_ok_iff.mp hvalid

theorem assignable_of_targets {targets : List (Nat × String)}
    (h : table.targets assignments = .ok targets) : table.Assignable assignments := by
  intro assignment hassignment
  have hfault := fault?_targets table assignments
  rw [h, fault?_ok] at hfault
  have hnone := List.findSome?_eq_none_iff.mp hfault.symm assignment hassignment
  rw [← fault?_writable] at hnone
  cases hwritable : table.writable assignment.column with
  | error fault => simp [hwritable] at hnone
  | ok index =>
      obtain ⟨hpos, hindex⟩ := writable_eq_ok_iff.mp hwritable
      exact ⟨index - 1, by rw [hindex, Nat.sub_add_cancel hpos]⟩

/-! ## Rows that are changed twice -/

theorem assigned_assigned (row : Row) :
    table.assigned assignments (table.assigned assignments row) =
      table.assigned assignments row := by
  rw [assigned, assigned, List.mapIdx_mapIdx]
  congr 1
  funext index field
  cases table.lastAssigned? assignments index with
  | none => rfl
  | some text => rfl

theorem length_assigned (row : Row) : (table.assigned assignments row).length = row.length :=
  List.length_mapIdx

theorem revised_revised (row : Row) :
    table.revised assignments condition (table.revised assignments condition row) =
      table.revised assignments condition row := by
  by_cases hmeets : table.meets condition row
  · have hrow : table.revised assignments condition row = table.assigned assignments row :=
      if_pos hmeets
    rw [hrow, revised, assigned_assigned, ite_self]
  · have hrow : table.revised assignments condition row = row := if_neg hmeets
    rw [hrow, hrow]

/-- A row that satisfies the condition after an update has done so before. -/
theorem meets_of_meets_revised {row : Row}
    (h : table.meets condition (table.revised assignments condition row) = true) :
    table.meets condition row = true := by
  by_contra hmeets
  rw [revised, if_neg hmeets] at h
  exact hmeets h

theorem length_revised (row : Row) :
    (table.revised assignments condition row).length = row.length := by
  rw [revised]
  split
  · exact length_assigned row
  · rfl

theorem length_places_revised_le (table : Table) (assignments : List Assignment)
    (condition : Condition) :
    (places { table with rows := table.rows.map (table.revised assignments condition) }
      condition).length ≤ (table.places condition).length := by
  rw [length_places, length_places, ← List.countP_eq_length_filter,
    ← List.countP_eq_length_filter, List.countP_map]
  exact List.countP_mono_left fun row _ => meets_of_meets_revised

theorem filter_meets_left (table : Table) (condition : Condition) :
    (table.rows.filter fun row => !table.meets condition row).filter (table.meets condition) =
      [] := by
  rw [List.filter_eq_nil_iff]
  intro row hrow
  simpa using (List.mem_filter.mp hrow).2

namespace Rectangular

theorem map_revised (h : table.Rectangular) (assignments : List Assignment)
    (condition : Condition) :
    Rectangular { table with rows := table.rows.map (table.revised assignments condition) } := by
  refine ⟨h.columns_ne_nil, fun row hrow => ?_⟩
  obtain ⟨old, hold, rfl⟩ := List.mem_map.mp hrow
  exact (length_revised old).trans (h.width old hold)

theorem filter (h : table.Rectangular) (keep : Row → Bool) :
    Rectangular { table with rows := table.rows.filter keep } :=
  ⟨h.columns_ne_nil, fun row hrow => h.width row (List.mem_of_mem_filter hrow)⟩

/-- An update that succeeds can be run again. It leaves the table as it is and counts no more rows
than before. -/
theorem update_again (h : table.Rectangular)
    (hupdate : table.update assignments condition = .ok (changed, count)) :
    ∃ again, again ≤ count ∧ changed.update assignments condition = .ok (changed, again) := by
  obtain ⟨targets, htargets, hmarks⟩ := bind_eq_ok_iff.mp hupdate
  obtain ⟨marks, hmarks, -⟩ := bind_eq_ok_iff.mp hmarks
  have hknown := known_of_matching hmarks
  have hassigned := assignable_of_targets htargets
  have hfirst := h.update_eq_ok hknown hassigned
  have hsecond := (h.map_revised assignments condition).update_eq_ok hknown hassigned
  have hrows : (table.rows.map (table.revised assignments condition)).map
      (table.revised assignments condition) =
        table.rows.map (table.revised assignments condition) := by
    rw [List.map_map]
    exact List.map_congr_left fun row _ => revised_revised row
  rw [hupdate] at hfirst
  cases hfirst
  refine ⟨_, length_places_revised_le table assignments condition, hsecond.trans ?_⟩
  exact congrArg (fun rows => Except.ok ({ table with rows }, _)) hrows

/-- After a deletion the condition selects no row: there is nothing more to remove or to show. -/
theorem delete_again (h : table.Rectangular)
    (hdelete : table.delete condition = .ok (changed, count)) :
    changed.delete condition = .ok (changed, 0) ∧
      ∀ wanted indices, changed.wanted wanted = .ok indices →
        changed.select wanted (some condition) =
          .ok { header := project changed.columns indices, rows := [] } := by
  obtain ⟨marks, hmarks, -⟩ := bind_eq_ok_iff.mp hdelete
  have hknown := known_of_matching hmarks
  have hfirst := h.delete_eq_ok hknown
  rw [hdelete] at hfirst
  cases hfirst
  have hleft := h.filter fun row => !table.meets condition row
  have hnone := filter_meets_left table condition
  constructor
  · have hrows : (table.rows.filter fun row => !table.meets condition row).filter
        (fun row => !table.meets condition row) =
          table.rows.filter fun row => !table.meets condition row := by
      simp only [List.filter_filter, Bool.and_self]
    have hcount : (places { table with
        rows := table.rows.filter fun row => !table.meets condition row }
          condition).length = 0 := by
      rw [length_places]
      exact congrArg List.length hnone
    rw [hleft.delete_eq_ok hknown, hcount]
    exact congrArg (fun rows => Except.ok ({ table with rows }, 0)) hrows
  · intro wanted indices hwanted
    rw [hleft.select_eq_ok hknown hwanted]
    exact congrArg (fun rows : List Row => (Except.ok {
      header := project table.columns indices
      rows := rows.map (project · indices) } : Except Error Listing)) hnone

end Rectangular

/-- Run again, an update that has succeeded leaves the table as it is and counts no more rows than
at first, also if it assigns to columns that its condition tests or to one column twice. A deletion
that has succeeded removes no more rows, and a query under its condition shows none, whichever
columns it asks for. -/
theorem repeated_changes (h : table.isConsistent) :
    (∀ assignments condition updated count,
      table.update assignments condition = .ok (updated, count) →
        ∃ again, again ≤ count ∧
          updated.update assignments condition = .ok (updated, again)) ∧
    ∀ condition left count, table.delete condition = .ok (left, count) →
      left.delete condition = .ok (left, 0) ∧
      left.select none (some condition) = .ok { header := table.columns, rows := [] } ∧
      ∀ wanted indices, left.wanted wanted = .ok indices →
        left.select wanted (some condition) =
          .ok { header := project left.columns indices, rows := [] } := by
  have hrect := (isConsistent_iff.mp h).rectangular
  refine ⟨fun assignments condition updated count => hrect.update_again,
    fun condition left count hdelete => ?_⟩
  obtain ⟨hagain, hselect⟩ := hrect.delete_again hdelete
  have hcolumns : left.columns = table.columns := by
    obtain ⟨_, -, hleft⟩ := bind_eq_ok_iff.mp hdelete
    cases hleft
    rfl
  refine ⟨hagain, ?_, hselect⟩
  rw [hselect none _ rfl, project_range, hcolumns]

theorem repeated_changes_people :
    people.isConsistent ∧
      people.update renamed calledAnn =
        .ok ({ people with rows := [["1", "Cid", "30"], ["3", "Ben", "7"]] }, 1) ∧
      (∃ again, again ≤ 1 ∧
        update { people with rows := [["1", "Cid", "30"], ["3", "Ben", "7"]] } renamed calledAnn =
          .ok ({ people with rows := [["1", "Cid", "30"], ["3", "Ben", "7"]] }, again)) ∧
      people.delete calledAnn = .ok ({ people with rows := [["3", "Ben", "7"]] }, 1) ∧
      delete { people with rows := [["3", "Ben", "7"]] } calledAnn =
        .ok ({ people with rows := [["3", "Ben", "7"]] }, 0) ∧
      select { people with rows := [["3", "Ben", "7"]] } none (some calledAnn) =
        .ok { header := ["id", "name", "age"], rows := [] } := by
  have hpeople : people.isConsistent = true := by cbv
  have hname : people.writable "name" = .ok 1 :=
    writable_eq_ok_iff.mpr ⟨Nat.one_pos, by cbv⟩
  have hName : people.writable "Name" = .ok 1 :=
    writable_eq_ok_iff.mpr ⟨Nat.one_pos, by cbv⟩
  have hNAME : people.columnIndex? "NAME" = some 1 := by cbv
  have htargets : people.targets renamed = .ok [(1, "Bob"), (1, "Cid")] := by
    rw [targets, renamed, List.mapM_cons, hname, ok_bind, List.mapM_cons, hName]
    rfl
  have hmatching : people.matching calledAnn = .ok [true, false] := by
    have hvalid : calledAnn.validate (fun name => (people.columnIndex? name).isSome) = .ok () := by
      simp [Condition.validate_eq_ok_iff, calledAnn, Condition.columns, hNAME]
    have hrow (row : Row) : calledAnn.evaluate (people.field? row) =
        row[1]?.elim (.error (.unknownColumn "NAME")) fun field =>
          .ok (compareField field .equal (.text "Ann")) := by
      rw [calledAnn, Condition.evaluate, field?, hNAME, Option.bind_some]
      cases row[1]? with
      | none => rfl
      | some field => rfl
    rw [matching, hvalid, ok_bind]
    simp only [hrow]
    rfl
  have hupdate : people.update renamed calledAnn =
      .ok ({ people with rows := [["1", "Cid", "30"], ["3", "Ben", "7"]] }, 1) := by
    rw [Table.update, htargets, ok_bind, hmatching]
    rfl
  have hdelete : people.delete calledAnn =
      .ok ({ people with rows := [["3", "Ben", "7"]] }, 1) := by
    rw [Table.delete, hmatching]
    rfl
  obtain ⟨hupdated, hdeleted⟩ := repeated_changes hpeople
  obtain ⟨hagain, hnone, -⟩ := hdeleted _ _ _ hdelete
  exact ⟨hpeople, hupdate, hupdated _ _ _ _ hupdate, hdelete, hagain, hnone⟩

end Table

end Rowbase
