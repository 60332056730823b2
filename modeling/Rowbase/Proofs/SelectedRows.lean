import Rowbase.Proofs.NameFaults

/-!
# Selected rows

A condition selects the rows of which it is true, as a scan from the first row to the last finds
them. A query shows those rows, an update changes them and a deletion removes them; each counts
them, and none touches another row. All three judge the rows as they were before, also where a
condition tests a column that is assigned to, and of several assignments to one column the last
one counts.
-/

namespace Rowbase

namespace Table

/-- The places of the rows of which a condition is true, in ascending order. -/
def places (table : Table) (condition : Condition) : List Nat :=
  (List.range table.rows.length).filter fun place =>
    table.rows[place]?.any (table.meets condition)

/-- The text that the last assignment to the column at a place puts there, if there is one. -/
def lastAssigned? (table : Table) (assignments : List Assignment) (index : Nat) : Option String :=
  (assignments.filter fun assignment =>
    table.columnIndex? assignment.column = some index).getLast?.map fun assignment =>
      assignment.literal.field

/-- A row in which every column that is assigned to holds what was last assigned to it. -/
def assigned (table : Table) (assignments : List Assignment) (row : Row) : Row :=
  row.mapIdx fun index field => (table.lastAssigned? assignments index).getD field

variable {table : Table} {condition : Condition} {names : List String}
variable {assignments : List Assignment}

/-! ## Places of rows -/

theorem mem_places_iff {place : Nat} {row : Row} (hrow : table.rows[place]? = some row) :
    place ∈ table.places condition ↔ table.meets condition row = true := by
  obtain ⟨hlt, -⟩ := List.getElem?_eq_some_iff.mp hrow
  rw [places, List.mem_filter, List.mem_range, hrow, Option.any_some]
  exact and_iff_right hlt

/-- The selected rows, each with its place. -/
theorem places_eq_map (table : Table) (condition : Condition) :
    table.places condition =
      (table.rows.zipIdx.filter fun entry => table.meets condition entry.1).map Prod.snd := by
  have hrange : List.range table.rows.length = table.rows.zipIdx.map Prod.snd := by
    rw [List.zipIdx_map_snd, List.range_eq_range']
  rw [places, hrange, List.filter_map]
  congr 1
  apply List.filter_congr
  intro entry hentry
  rw [Function.comp_apply, List.mem_zipIdx_iff_getElem?.mp hentry, Option.any_some]

theorem filter_meets_eq_map (table : Table) (condition : Condition) :
    table.rows.filter (table.meets condition) =
      (table.rows.zipIdx.filter fun entry => table.meets condition entry.1).map Prod.fst := by
  conv_lhs => rw [← List.zipIdx_map_fst 0 table.rows]
  exact List.filter_map

/-- The rows at the selected places are those that satisfy the condition. -/
theorem filterMap_places (table : Table) (condition : Condition) :
    (table.places condition).filterMap (table.rows[·]?) =
      table.rows.filter (table.meets condition) := by
  rw [places_eq_map, filter_meets_eq_map, List.filterMap_map, ← List.filterMap_eq_map]
  apply List.filterMap_congr
  intro entry hentry
  exact List.mem_zipIdx_iff_getElem?.mp (List.mem_of_mem_filter hentry)

theorem length_places (table : Table) (condition : Condition) :
    (table.places condition).length = (table.rows.filter (table.meets condition)).length := by
  rw [places_eq_map, filter_meets_eq_map, List.length_map, List.length_map]

/-- A change of the rows that satisfy a condition is one of those at the selected places. -/
theorem map_meets_eq_mapIdx (table : Table) (condition : Condition) (change : Row → Row) :
    (table.rows.map fun row => if table.meets condition row then change row else row) =
      table.rows.mapIdx fun place row =>
        if place ∈ table.places condition then change row else row := by
  apply List.ext_getElem?
  intro place
  rw [List.getElem?_map, List.getElem?_mapIdx]
  cases hrow : table.rows[place]? with
  | none => rfl
  | some row => simp only [Option.map_some, mem_places_iff hrow]

theorem filter_not_meets_eq_map (table : Table) (condition : Condition) :
    (table.rows.filter fun row => !table.meets condition row) =
      (table.rows.zipIdx.filter fun entry => entry.2 ∉ table.places condition).map Prod.fst := by
  conv_lhs => rw [← List.zipIdx_map_fst 0 table.rows]
  rw [List.filter_map]
  congr 1
  apply List.filter_congr
  intro entry hentry
  have hplace : entry.2 ∈ table.places condition ↔ table.meets condition entry.1 = true :=
    mem_places_iff (List.mem_zipIdx_iff_getElem?.mp hentry)
  simp [hplace]

theorem count_map_meets (table : Table) (condition : Condition) :
    (table.rows.map (table.meets condition)).count true = (table.places condition).length := by
  rw [length_places, List.count_eq_countP, List.countP_map, List.countP_eq_length_filter]
  congr 2
  funext row
  exact beq_true _

/-! ## Assignments -/

/-- Fields assigned one after the other leave the last one at each place. -/
theorem assign_eq_mapIdx (targets : List (Nat × String)) (row : Row) :
    assign targets row = row.mapIdx fun index field =>
      ((targets.filter fun target => target.1 = index).getLast?.map Prod.snd).getD field := by
  -- for every row, as each assignment is made to what those before it have left
  induction targets generalizing row with
  | nil =>
      apply List.ext_getElem?
      intro index
      simp [assign]
  | cons target rest ih =>
      obtain ⟨place, text⟩ := target
      have hfirst : assign ((place, text) :: rest) row = assign rest (row.set place text) := rfl
      rw [hfirst, ih]
      apply List.ext_getElem?
      intro index
      rw [List.getElem?_mapIdx, List.getElem?_mapIdx, List.getElem?_set, List.filter_cons]
      by_cases hplace : place = index
      · subst hplace
        rw [if_pos rfl, if_pos (decide_eq_true rfl), List.getLast?_cons]
        by_cases hlt : place < row.length
        · rw [if_pos hlt, List.getElem?_eq_getElem hlt]
          cases (rest.filter fun target => target.1 = place).getLast? with
          | none => rfl
          | some last => rfl
        · rw [if_neg hlt, List.getElem?_eq_none (Nat.le_of_not_lt hlt)]
          rfl
      · rw [if_neg hplace, if_neg (by simpa using hplace)]

/-- The place that a name stands for. -/
def indexOf (table : Table) (name : String) : Nat :=
  (table.columnIndex? name).getD 0

theorem columnIndex?_eq_indexOf {name : String} (h : (table.columnIndex? name).isSome) :
    table.columnIndex? name = some (table.indexOf name) := by
  obtain ⟨index, hindex⟩ := Option.isSome_iff_exists.mp h
  rw [indexOf, hindex, Option.getD_some]

/-- Every assignment is to a column other than that of the identities. -/
def Assignable (table : Table) (assignments : List Assignment) : Prop :=
  ∀ assignment ∈ assignments, ∃ index, table.columnIndex? assignment.column = some (index + 1)

theorem targets_eq_ok (h : table.Assignable assignments) :
    table.targets assignments = .ok (assignments.map fun assignment =>
      (table.indexOf assignment.column, assignment.literal.field)) := by
  refine mapM_eq_ok_map fun assignment hassignment => ?_
  obtain ⟨index, hindex⟩ := h assignment hassignment
  rw [writable, indexOf, hindex]
  rfl

theorem assign_targets (h : table.Assignable assignments) (row : Row) :
    assign (assignments.map fun assignment =>
      (table.indexOf assignment.column, assignment.literal.field)) row =
        table.assigned assignments row := by
  have htargets (index : Nat) :
      (assignments.map fun assignment =>
        (table.indexOf assignment.column, assignment.literal.field)).filter
          (fun target => target.1 = index) =
        (assignments.filter fun assignment =>
          table.columnIndex? assignment.column = some index).map fun assignment =>
            (table.indexOf assignment.column, assignment.literal.field) := by
    rw [List.filter_map]
    congr 1
    apply List.filter_congr
    intro assignment hassignment
    obtain ⟨place, hplace⟩ := h assignment hassignment
    simp [indexOf, hplace]
  rw [assign_eq_mapIdx, assigned]
  simp only [htargets, List.getLast?_map, Option.map_map, Function.comp_def, lastAssigned?]

/-- No assignment is to the identity. -/
theorem lastAssigned?_zero (h : table.Assignable assignments) :
    table.lastAssigned? assignments 0 = none := by
  have hnone : (assignments.filter fun assignment =>
      table.columnIndex? assignment.column = some 0) = [] := by
    rw [List.filter_eq_nil_iff]
    intro assignment hassignment
    obtain ⟨index, hindex⟩ := h assignment hassignment
    simp [hindex]
  rw [lastAssigned?, hnone]
  rfl

theorem head?_assigned (h : table.Assignable assignments) (row : Row) :
    (table.assigned assignments row).head? = row.head? := by
  rw [List.head?_eq_getElem?, assigned, List.getElem?_mapIdx, lastAssigned?_zero h,
    ← List.head?_eq_getElem?]
  exact Option.map_id'

/-! ## Projections -/

/-- Projected to the places of known names, a line of fields has the field of each name. -/
theorem map_some_project_indexOf {fields : List String}
    (h : ∀ name ∈ names, ∃ index, table.columnIndex? name = some index ∧ index < fields.length) :
    (project fields (names.map table.indexOf)).map some =
      names.map fun name => (table.columnIndex? name).bind (fields[·]?) := by
  have hlt : ∀ index ∈ names.map table.indexOf, index < fields.length := by
    rw [List.forall_mem_map]
    intro name hname
    obtain ⟨index, hindex, hlt⟩ := h name hname
    rwa [indexOf, hindex, Option.getD_some]
  rw [map_some_project hlt, List.map_map]
  apply List.map_congr_left
  intro name hname
  obtain ⟨index, hindex, -⟩ := h name hname
  simp [indexOf, hindex]

/-! ## The three operations -/

namespace Rectangular

theorem wanted_eq_ok (hnames : ∀ name ∈ names, (table.columnIndex? name).isSome) :
    table.wanted (some names) = .ok (names.map table.indexOf) := by
  refine mapM_eq_ok_map fun name hname => ?_
  rw [resolve, columnIndex?_eq_indexOf (hnames name hname)]

theorem select_eq_ok (h : table.Rectangular)
    (hknown : ∀ name ∈ condition.columns, (table.columnIndex? name).isSome)
    {wanted : Option (List String)} {indices : List Nat}
    (hwanted : table.wanted wanted = .ok indices) :
    table.select wanted (some condition) = .ok {
      header := project table.columns indices
      rows := (table.rows.filter (table.meets condition)).map (project · indices) } := by
  have hmarked := marked_map (table.meets condition) id table.rows
  rw [List.map_id, List.map_id] at hmarked
  rw [select, hwanted, ok_bind, matchingAll, h.matching_eq_ok hknown, ok_bind, hmarked]
  rfl

theorem update_eq_ok (h : table.Rectangular)
    (hknown : ∀ name ∈ condition.columns, (table.columnIndex? name).isSome)
    (hassigned : table.Assignable assignments) :
    table.update assignments condition =
      .ok ({ table with
        rows := table.rows.map fun row =>
          if table.meets condition row then table.assigned assignments row else row },
        (table.places condition).length) := by
  rw [Table.update, targets_eq_ok hassigned, ok_bind, h.matching_eq_ok hknown, ok_bind,
    count_map_meets]
  have hzip : (table.rows.map (table.meets condition)).zip table.rows =
      table.rows.map fun row => (table.meets condition row, row) := by
    rw [← List.zip_map', List.map_id']
  simp only [hzip, List.map_map, Function.comp_def, assign_targets hassigned]
  rfl

theorem delete_eq_ok (h : table.Rectangular)
    (hknown : ∀ name ∈ condition.columns, (table.columnIndex? name).isSome) :
    table.delete condition =
      .ok ({ table with rows := table.rows.filter fun row => !table.meets condition row },
        (table.places condition).length) := by
  have hmarked := marked_map (fun row => !table.meets condition row) id table.rows
  rw [List.map_id, List.map_id] at hmarked
  rw [Table.delete, h.matching_eq_ok hknown, ok_bind, count_map_meets, List.map_map]
  exact congrArg (fun rows => Except.ok ({ table with rows }, _)) hmarked

end Rectangular

/-- A query shows the rows at the selected places, in their order and with the fields that are
wanted; an update gives those rows the fields last assigned and leaves their identities, and a
deletion leaves the other rows. Both count the places, and neither changes anything else. -/
theorem operations_on_places (h : table.isConsistent)
    (hknown : ∀ name ∈ condition.columns, (table.columnIndex? name).isSome)
    (hnames : ∀ name ∈ names, (table.columnIndex? name).isSome)
    (hassigned : table.Assignable assignments) :
    (∃ listing, table.select (some names) (some condition) = .ok listing ∧
      listing.header.map some =
        names.map (fun name => (table.columnIndex? name).bind (table.columns[·]?)) ∧
      listing.rows.map (List.map some) =
        ((table.places condition).filterMap (table.rows[·]?)).map
          fun row => names.map (table.field? row)) ∧
    table.select none (some condition) =
      .ok {
        header := table.columns
        rows := (table.places condition).filterMap (table.rows[·]?) } ∧
    table.update assignments condition =
      .ok ({ table with
        rows := table.rows.mapIdx fun place row =>
          if place ∈ table.places condition then table.assigned assignments row else row },
        (table.places condition).length) ∧
    (∀ row, (table.assigned assignments row).head? = row.head?) ∧
    table.delete condition =
      .ok ({ table with
        rows := (table.rows.zipIdx.filter fun entry =>
          entry.2 ∉ table.places condition).map Prod.fst },
        (table.places condition).length) := by
  have hrect := (isConsistent_iff.mp h).rectangular
  refine ⟨⟨_, hrect.select_eq_ok hknown (Rectangular.wanted_eq_ok hnames), ?_, ?_⟩, ?_, ?_,
    head?_assigned hassigned, ?_⟩
  · apply map_some_project_indexOf
    intro name hname
    obtain ⟨index, hindex⟩ := Option.isSome_iff_exists.mp (hnames name hname)
    exact ⟨index, hindex, (columnIndex?_eq_some_iff.mp hindex).1⟩
  · rw [filterMap_places, List.map_map]
    apply List.map_congr_left
    intro row hrow
    apply map_some_project_indexOf
    intro name hname
    obtain ⟨index, hindex⟩ := Option.isSome_iff_exists.mp (hnames name hname)
    exact ⟨index, hindex, hrect.lt_length (List.mem_of_mem_filter hrow) hindex⟩
  · rw [hrect.select_eq_ok hknown rfl, filterMap_places, project_range]
    congr 2
    refine (List.map_congr_left (g := id) ?_).trans (List.map_id _)
    intro row hrow
    rw [← hrect.width row (List.mem_of_mem_filter hrow)]
    exact project_range row
  · rw [hrect.update_eq_ok hknown hassigned, map_meets_eq_mapIdx]
  · rw [hrect.delete_eq_ok hknown, filter_not_meets_eq_map]

/-- The condition tests the column that is renamed below. -/
def calledAnn : Condition := .comparison "NAME" .equal (.text "Ann")

/-- One column is assigned to twice, in two spellings. -/
def renamed : List Assignment := [⟨"name", .text "Bob"⟩, ⟨"Name", .text "Cid"⟩]

theorem operations_on_places_people :
    people.isConsistent ∧ people.Assignable renamed ∧ people.places calledAnn = [0] ∧
      (∃ listing, people.select (some ["age", "AGE", "name"]) (some calledAnn) = .ok listing ∧
        listing.header.map some = [some "age", some "age", some "name"] ∧
        listing.rows.map (List.map some) = [[some "30", some "30", some "Ann"]]) ∧
      people.update renamed calledAnn =
        .ok ({ people with rows := [["1", "Cid", "30"], ["3", "Ben", "7"]] }, 1) ∧
      people.delete calledAnn = .ok ({ people with rows := [["3", "Ben", "7"]] }, 1) := by
  have hpeople : people.isConsistent = true := by cbv
  have hname : people.columnIndex? "name" = some 1 := by cbv
  have hName : people.columnIndex? "Name" = some 1 := by cbv
  have hNAME : people.columnIndex? "NAME" = some 1 := by cbv
  have hage : people.columnIndex? "age" = some 2 := by cbv
  have hAGE : people.columnIndex? "AGE" = some 2 := by cbv
  have hknown : ∀ name ∈ calledAnn.columns, (people.columnIndex? name).isSome := by
    simp [calledAnn, Condition.columns, hNAME]
  have hnames : ∀ name ∈ ["age", "AGE", "name"], (people.columnIndex? name).isSome := by
    simp [hage, hAGE, hname]
  have hassignable : people.Assignable renamed := by
    simp [Assignable, renamed, hname, hName]
  have hann : people.meets calledAnn ["1", "Ann", "30"] = true := by
    rw [meets, calledAnn, Condition.truth, field?, hNAME]
    rfl
  have hben : people.meets calledAnn ["3", "Ben", "7"] = false := by
    rw [meets, calledAnn, Condition.truth, field?, hNAME]
    rfl
  have hrows : people.rows.zipIdx = [(["1", "Ann", "30"], 0), (["3", "Ben", "7"], 1)] := rfl
  have hplaces : people.places calledAnn = [0] := by
    rw [places_eq_map, hrows]
    simp [hann, hben]
  have hassigned : people.assigned renamed ["1", "Ann", "30"] = ["1", "Cid", "30"] := by
    have hlast (index : Nat) :
        people.lastAssigned? renamed index = if index = 1 then some "Cid" else none := by
      by_cases hindex : index = 1
      · simp [lastAssigned?, renamed, hname, hName, hindex, Literal.field]
      · simp [lastAssigned?, renamed, hname, hName, hindex, Ne.symm hindex]
    simp [assigned, hlast]
  obtain ⟨⟨listing, hselect, hheader, hlisted⟩, -, hupdate, -, hdelete⟩ :=
    operations_on_places hpeople hknown hnames hassignable
  refine ⟨hpeople, hassignable, hplaces, ⟨listing, hselect, ?_, ?_⟩, ?_, ?_⟩
  · simp only [hheader, List.map_cons, hage, hAGE, hname]
    rfl
  · simp only [hlisted, hplaces, List.map_cons, field?, hage, hAGE, hname]
    rfl
  · have hchanged : (people.rows.mapIdx fun place row =>
        if place ∈ [0] then people.assigned renamed row else row) =
          [["1", "Cid", "30"], ["3", "Ben", "7"]] := by
      rw [← hassigned]
      rfl
    rw [hupdate, hplaces, hchanged]
    rfl
  · rw [hdelete, hplaces, hrows]
    rfl

end Table

end Rowbase
