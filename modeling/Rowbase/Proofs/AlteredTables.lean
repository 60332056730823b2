import Rowbase.Proofs.SelectedRows

/-!
# Altered tables

A column that is added makes every row wider, and one that is dropped moves all columns behind it.
Whoever does not name that column cannot tell: the other names stand for the same fields, at places
that have moved along. A query for columns by name has the same answer before and after, and a
change of rows can be made before or after. A column that is added and dropped again leaves no
trace. A query for all columns is no part of this, as it shows the column that comes or goes.
-/

namespace Rowbase

/-- None of some names is the given one. -/
def Name.NotAmong (name : String) (names : List String) : Prop :=
  ∀ other ∈ names, ¬Name.Same other name

namespace Condition

variable {condition : Condition}

/-- A condition is judged by the fields of the names in it. -/
theorem evaluate_congr {field? other? : String → Option String}
    (h : ∀ name ∈ condition.columns, field? name = other? name) :
    condition.evaluate field? = condition.evaluate other? := by
  induction condition with
  | comparison column comparator literal => rw [evaluate, evaluate, h column (.head _)]
  | and left right ihleft ihright =>
      obtain ⟨hleft, hright⟩ := List.forall_mem_append.mp h
      rw [evaluate, evaluate, ihleft hleft, ihright hright]
  | or left right ihleft ihright =>
      obtain ⟨hleft, hright⟩ := List.forall_mem_append.mp h
      rw [evaluate, evaluate, ihleft hleft, ihright hright]

theorem validate_congr {known other : String → Bool}
    (h : ∀ name ∈ condition.columns, known name = other name) :
    condition.validate known = condition.validate other := by
  have hfind : (condition.columns.find? fun name => !known name) =
      condition.columns.find? fun name => !other name :=
    List.find?_congr fun name hname => by rw [h name hname]
  rw [validate, validate, hfind]

end Condition

namespace Table

/-! ## Places that move -/

/-- Where a place among columns goes when the column at a gap is taken out. -/
def closeGap (gap index : Nat) : Nat :=
  if index ≤ gap then index else index - 1

theorem closeGap_succ (gap index : Nat) :
    closeGap (gap + 1) (index + 1) = closeGap gap index + 1 := by
  unfold closeGap
  split <;> split <;> omega

theorem closeGap_eq_zero_iff {gap index : Nat} (hgap : 0 < gap) :
    closeGap gap index = 0 ↔ index = 0 := by
  unfold closeGap
  split <;> omega

section Gap

variable {α : Type} {gap index : Nat}

theorem getElem?_closeGap (h : index ≠ gap) (items : List α) :
    (items.eraseIdx gap)[closeGap gap index]? = items[index]? := by
  unfold closeGap
  split
  next hle => rw [List.getElem?_eraseIdx_of_lt (by omega)]
  next hgt =>
    rw [List.getElem?_eraseIdx_of_ge (by omega), Nat.sub_add_cancel (by omega)]

theorem set_closeGap (h : index ≠ gap) (items : List α) (item : α) :
    (items.eraseIdx gap).set (closeGap gap index) item = (items.set index item).eraseIdx gap := by
  unfold closeGap
  split
  next hle => rw [List.eraseIdx_set_gt (by omega)]
  next hgt => rw [List.eraseIdx_set_lt (by omega)]

/-- An item that passes a test is found where it has gone, if the one taken out does not pass. -/
theorem findIdx?_eraseIdx {test : α → Bool} {items : List α}
    (h : ∀ item, items[gap]? = some item → test item = false) :
    (items.eraseIdx gap).findIdx? test = (items.findIdx? test).map (closeGap gap) := by
  induction items generalizing gap with
  | nil => rfl
  | cons first rest ih =>
      cases gap with
      | zero =>
          have hfirst : test first = false := h first rfl
          rw [List.eraseIdx_cons_zero, List.findIdx?_cons, if_neg (by simp [hfirst]),
            Option.map_map]
          exact Option.map_id'.symm
      | succ gap =>
          rw [List.eraseIdx_cons_succ, List.findIdx?_cons, List.findIdx?_cons, ih h]
          split
          · rfl
          · simp only [Option.map_map, Function.comp_def, closeGap_succ]

end Gap

/-! ## Columns that come or go -/

/-- What adds or drops a column of the given name. -/
inductive Alters (name : String) : (Table → Except Error Table) → Prop where
  | add : Alters name (addColumn · name)
  | drop : Alters name (dropColumn · name)

/-- The place is that of a column that is found by another name than the given one. -/
def FoundAside (table : Table) (name : String) (index : Nat) : Prop :=
  ∃ other, ¬Name.Same other name ∧ table.columnIndex? other = some index

/-- A table in which the columns that other names stand for have gone to other places, and their
fields in each row along with them. -/
structure Rearranged (table : Table) (name : String) (place : Nat → Nat) (line : Row → Row)
    (altered : Table) : Prop where
  rows : altered.rows = table.rows.map line
  found : ∀ other, ¬Name.Same other name →
    altered.columnIndex? other = (table.columnIndex? other).map place
  /-- The identity column stays first, and no other one takes its place. -/
  first : ∀ index, place index = 0 ↔ index = 0
  column : ∀ index, table.FoundAside name index →
    altered.columns[place index]? = table.columns[index]?
  field : ∀ index, table.FoundAside name index → ∀ row : Row,
    row.length = table.columns.length → (line row)[place index]? = row[index]?
  assigned : ∀ index, table.FoundAside name index → ∀ row : Row,
    row.length = table.columns.length →
      ∀ text, (line row).set (place index) text = line (row.set index text)

variable {table altered : Table} {name : String} {place : Nat → Nat} {line : Row → Row}
variable {condition : Condition} {names : List String} {assignments : List Assignment}

theorem addColumn_eq_ok_iff :
    table.addColumn name = .ok altered ↔ table.checkNew name = .ok () ∧
      altered = { table with
        columns := table.columns ++ [name]
        rows := table.rows.map (· ++ [""]) } := by
  rw [addColumn, bind_eq_ok_iff]
  constructor
  · rintro ⟨_, hnew, haltered⟩
    cases haltered
    exact ⟨hnew, rfl⟩
  · rintro ⟨hnew, rfl⟩
    exact ⟨(), hnew, rfl⟩

theorem dropColumn_eq_ok_iff :
    table.dropColumn name = .ok altered ↔ ∃ index, table.writable name = .ok index ∧
      altered = { table with
        columns := table.columns.eraseIdx index
        rows := table.rows.map (·.eraseIdx index) } := by
  rw [dropColumn, bind_eq_ok_iff]
  constructor
  · rintro ⟨index, hindex, haltered⟩
    cases haltered
    exact ⟨index, hindex, rfl⟩
  · rintro ⟨index, hindex, rfl⟩
    exact ⟨index, hindex, rfl⟩

theorem lt_of_foundAside {index : Nat} (h : table.FoundAside name index) :
    index < table.columns.length := by
  obtain ⟨other, -, hindex⟩ := h
  exact (columnIndex?_eq_some_iff.mp hindex).1

/-- A column that is added comes behind all others. -/
theorem rearranged_of_addColumn (hadd : table.addColumn name = .ok altered) :
    table.Rearranged name id (· ++ [""]) altered := by
  obtain ⟨-, rfl⟩ := addColumn_eq_ok_iff.mp hadd
  refine ⟨rfl, fun other hother => ?_, fun index => Iff.rfl, fun index hindex => ?_,
    fun index hindex row hrow => ?_, fun index hindex row hrow text => ?_⟩
  · have hnew : ([name].findIdx? fun column => Name.Same column other) = none := by
      rw [List.findIdx?_singleton, if_neg (by simpa using fun hsame => hother (.symm hsame))]
    rw [columnIndex?, List.findIdx?_append, hnew, Option.map_none, Option.or_none, Option.map_id]
    rfl
  · exact List.getElem?_append_left (lt_of_foundAside hindex)
  · exact List.getElem?_append_left (hrow ▸ lt_of_foundAside hindex)
  · exact List.set_append_left _ _ (hrow ▸ lt_of_foundAside hindex)

/-- The columns behind one that is taken out move up by one place. -/
theorem rearranged_eraseIdx {gap : Nat} (hpos : 0 < gap)
    (hgap : table.columnIndex? name = some gap) :
    table.Rearranged name (closeGap gap) (·.eraseIdx gap) { table with
      columns := table.columns.eraseIdx gap
      rows := table.rows.map (·.eraseIdx gap) } := by
  obtain ⟨hlt, hsame, -⟩ := columnIndex?_eq_some_iff.mp hgap
  have hne {index : Nat} (hindex : table.FoundAside name index) : index ≠ gap := by
    rintro rfl
    obtain ⟨other, hother, hindex⟩ := hindex
    obtain ⟨_, hsame', -⟩ := columnIndex?_eq_some_iff.mp hindex
    exact hother (.trans (.symm hsame') hsame)
  refine ⟨rfl, fun other hother => ?_, fun index => closeGap_eq_zero_iff hpos,
    fun index hindex => getElem?_closeGap (hne hindex) _,
    fun index hindex row _ => getElem?_closeGap (hne hindex) _,
    fun index hindex row _ text => set_closeGap (hne hindex) _ _⟩
  apply findIdx?_eraseIdx
  intro column hcolumn
  rw [List.getElem?_eq_getElem hlt, Option.some.injEq] at hcolumn
  subst hcolumn
  exact decide_eq_false fun hsame' => hother (.trans (.symm hsame') hsame)

/-- An alteration that succeeds rearranges the columns, and would do the same with other rows. -/
theorem Alters.exists_rearranged {alter : Table → Except Error Table} (h : Alters name alter)
    (haltered : alter table = .ok altered) :
    ∃ place line, table.Rearranged name place line altered ∧
      ∀ rows, alter { table with rows } = .ok { altered with rows := rows.map line } := by
  cases h with
  | add =>
      refine ⟨id, (· ++ [""]), rearranged_of_addColumn haltered, fun rows => ?_⟩
      obtain ⟨hnew, rfl⟩ := addColumn_eq_ok_iff.mp haltered
      exact addColumn_eq_ok_iff.mpr ⟨hnew, rfl⟩
  | drop =>
      obtain ⟨gap, hgap, rfl⟩ := dropColumn_eq_ok_iff.mp haltered
      obtain ⟨hpos, hindex⟩ := writable_eq_ok_iff.mp hgap
      refine ⟨closeGap gap, (·.eraseIdx gap), rearranged_eraseIdx hpos hindex, fun rows => ?_⟩
      exact dropColumn_eq_ok_iff.mpr ⟨gap, hgap, rfl⟩

/-- A column that has been added is dropped in any spelling, and nothing is left of it. -/
theorem dropColumn_of_addColumn (h : table.Rectangular)
    (hadd : table.addColumn name = .ok altered) {spelling : String}
    (hspelling : Name.Same spelling name) : altered.dropColumn spelling = .ok table := by
  obtain ⟨hnew, rfl⟩ := addColumn_eq_ok_iff.mp hadd
  have hfound : columnIndex? { table with
      columns := table.columns ++ [name]
      rows := table.rows.map (· ++ [""]) } spelling = some table.columns.length := by
    have hold : (table.columns.findIdx? fun column => Name.Same column spelling) = none := by
      apply columnIndex?_eq_none_iff.mpr
      intro column hcolumn hsame
      exact not_same_of_checkNew hnew column hcolumn (hsame.trans hspelling)
    rw [columnIndex?, List.findIdx?_append, hold, List.findIdx?_singleton,
      if_pos (decide_eq_true (.symm hspelling)), Option.map_some, Option.none_or, Nat.zero_add]
  have hpos : 0 < table.columns.length := List.length_pos_iff.mpr h.columns_ne_nil
  refine dropColumn_eq_ok_iff.mpr ⟨_, writable_eq_ok_iff.mpr ⟨hpos, hfound⟩, ?_⟩
  have hlast {fields : List String} (hwidth : fields.length = table.columns.length)
      (field : String) : (fields ++ [field]).eraseIdx table.columns.length = fields := by
    rw [← hwidth, List.eraseIdx_append_of_length_le (Nat.le_refl _), Nat.sub_self,
      List.eraseIdx_cons_zero, List.append_nil]
  have hrows : (table.rows.map (· ++ [""])).map (·.eraseIdx table.columns.length) =
      table.rows := by
    rw [List.map_map]
    refine (List.map_congr_left (g := id) ?_).trans (List.map_id _)
    intro row hrow
    exact hlast (h.width row hrow) ""
  simp only [hlast rfl, hrows]

/-! ## Queries and changes of rows -/

namespace Rearranged

theorem resolve_eq (h : table.Rearranged name place line altered) {other : String}
    (hother : ¬Name.Same other name) :
    altered.resolve other = (table.resolve other).map place := by
  rw [resolve, resolve, h.found other hother]
  cases table.columnIndex? other with
  | none => rfl
  | some index => rfl

theorem writable_eq (h : table.Rearranged name place line altered) {other : String}
    (hother : ¬Name.Same other name) :
    altered.writable other = (table.writable other).map place := by
  rw [writable, writable, h.found other hother]
  cases table.columnIndex? other with
  | none => rfl
  | some index =>
      cases index with
      | zero => rw [Option.map_some, (h.first 0).mpr rfl]; rfl
      | succ index =>
          obtain ⟨before, hbefore⟩ := Nat.exists_eq_succ_of_ne_zero
            (fun hzero => Nat.succ_ne_zero index ((h.first (index + 1)).mp hzero))
          rw [Option.map_some, hbefore]
          simp [Except.map, hbefore]

/-- A name stands for the same field of a row. -/
theorem field?_eq (h : table.Rearranged name place line altered) {other : String}
    (hother : ¬Name.Same other name) {row : Row} (hrow : row.length = table.columns.length) :
    altered.field? (line row) other = table.field? row other := by
  rw [field?, field?, h.found other hother]
  cases hindex : table.columnIndex? other with
  | none => rfl
  | some index => exact h.field index ⟨other, hother, hindex⟩ row hrow

/-- The same rows satisfy a condition. -/
theorem matching_eq (h : table.Rearranged name place line altered) (hrect : table.Rectangular)
    (hcondition : Name.NotAmong name condition.columns) :
    altered.matching condition = table.matching condition := by
  have hknown : condition.validate (fun other => (altered.columnIndex? other).isSome) =
      condition.validate fun other => (table.columnIndex? other).isSome := by
    refine Condition.validate_congr fun other hother => ?_
    rw [h.found other (hcondition other hother), Option.isSome_map]
  have hrows : (altered.rows.mapM fun row => condition.evaluate (altered.field? row)) =
      table.rows.mapM fun row => condition.evaluate (table.field? row) := by
    rw [h.rows, List.mapM_map]
    refine mapM_congr fun row hrow => Condition.evaluate_congr fun other hother => ?_
    exact h.field?_eq (hcondition other hother) (hrect.width row hrow)
  rw [matching, matching, hknown, hrows]

theorem matchingAll_eq (h : table.Rearranged name place line altered) (hrect : table.Rectangular)
    {condition : Option Condition}
    (hcondition : Name.NotAmong name (condition.elim [] Condition.columns)) :
    altered.matchingAll condition = table.matchingAll condition := by
  cases condition with
  | none => simp only [matchingAll, h.rows, List.map_map, Function.comp_def]
  | some condition => exact h.matching_eq hrect hcondition

theorem wanted_eq (h : table.Rearranged name place line altered)
    (hnames : Name.NotAmong name names) :
    altered.wanted (some names) = (table.wanted (some names)).map (List.map place) :=
  (mapM_congr fun other hother => h.resolve_eq (hnames other hother)).trans
    (mapM_map_result table.resolve place names)

theorem targets_eq (h : table.Rearranged name place line altered)
    (hassigned : Name.NotAmong name (assignments.map Assignment.column)) :
    altered.targets assignments =
      (table.targets assignments).map (List.map (Prod.map place id)) := by
  rw [targets, targets, ← mapM_map_result]
  refine mapM_congr fun assignment hassignment => ?_
  rw [h.writable_eq (hassigned _ (List.mem_map_of_mem hassignment))]
  cases table.writable assignment.column with
  | error fault => rfl
  | ok index => rfl

/-- Projected to places that are found by other names, a line of fields is what it was. -/
theorem project_place {indices : List Nat} {before after : List String}
    (h : ∀ index ∈ indices, after[place index]? = before[index]?) :
    project after (indices.map place) = project before indices := by
  rw [project, project, List.map_map]
  apply List.map_congr_left
  intro index hindex
  rw [Function.comp_apply, h index hindex]

theorem foundAside_of_wanted (hnames : Name.NotAmong name names) {indices : List Nat}
    (hwanted : table.wanted (some names) = .ok indices) :
    ∀ index ∈ indices, table.FoundAside name index := by
  intro index hindex
  obtain ⟨other, hother, hresolve⟩ := exists_mem_of_mapM_eq_ok hwanted hindex
  refine ⟨other, hnames other hother, ?_⟩
  rw [resolve] at hresolve
  split at hresolve
  next hfound => rw [hfound, Except.ok.inj hresolve]
  · cases hresolve

theorem foundAside_of_targets (hassigned : Name.NotAmong name (assignments.map Assignment.column))
    {targets : List (Nat × String)} (htargets : table.targets assignments = .ok targets) :
    ∀ target ∈ targets, table.FoundAside name target.1 := by
  intro target htarget
  obtain ⟨assignment, hassignment, htarget⟩ := exists_mem_of_mapM_eq_ok htargets htarget
  obtain ⟨index, hindex, htarget⟩ := bind_eq_ok_iff.mp htarget
  cases htarget
  exact ⟨_, hassigned _ (List.mem_map_of_mem hassignment), (writable_eq_ok_iff.mp hindex).2⟩

theorem marked_map_line (marks : List Bool) (line : Row → Row) (rows : List Row) :
    marked marks (rows.map line) = (marked marks rows).map line := by
  rw [marked, marked, List.zip_map_right, List.filterMap_map, List.map_filterMap]
  apply List.filterMap_congr
  rintro ⟨mark, row⟩ -
  cases mark with
  | true => rfl
  | false => rfl

/-- A query for columns by name shows what it has shown before. -/
theorem select_eq (h : table.Rearranged name place line altered) (hrect : table.Rectangular)
    {condition : Option Condition} (hnames : Name.NotAmong name names)
    (hcondition : Name.NotAmong name (condition.elim [] Condition.columns)) :
    altered.select (some names) condition = table.select (some names) condition := by
  rw [select, select, h.wanted_eq hnames, h.matchingAll_eq hrect hcondition]
  cases hwanted : table.wanted (some names) with
  | error fault => rfl
  | ok indices =>
      cases table.matchingAll condition with
      | error fault => rfl
      | ok marks =>
          have haside := foundAside_of_wanted hnames hwanted
          have hheader : project altered.columns (indices.map place) =
              project table.columns indices :=
            project_place fun index hindex => h.column index (haside index hindex)
          have hrows : (marked marks altered.rows).map (project · (indices.map place)) =
              (marked marks table.rows).map (project · indices) := by
            rw [h.rows, marked_map_line, List.map_map]
            apply List.map_congr_left
            intro row hrow
            have hwidth := hrect.width row ((marked_sublist marks table.rows).subset hrow)
            exact project_place fun index hindex => h.field index (haside index hindex) row hwidth
          simp only [Except.map, ok_bind, hheader, hrows]

/-- A row is assigned to before its fields move or afterwards. -/
theorem assign_line (h : table.Rearranged name place line altered)
    {targets : List (Nat × String)}
    (htargets : ∀ target ∈ targets, table.FoundAside name target.1)
    {row : Row} (hrow : row.length = table.columns.length) :
    assign (targets.map (Prod.map place id)) (line row) = line (assign targets row) := by
  induction targets generalizing row with
  | nil => rfl
  | cons target rest ih =>
      obtain ⟨hfirst, hrest⟩ := List.forall_mem_cons.mp htargets
      have hset := h.assigned target.1 hfirst row hrow target.2
      have hlength : (row.set target.1 target.2).length = table.columns.length :=
        (List.length_set ..).trans hrow
      calc assign ((target :: rest).map (Prod.map place id)) (line row)
          = assign (rest.map (Prod.map place id))
              ((line row).set (place target.1) target.2) := rfl
        _ = line (assign rest (row.set target.1 target.2)) := by rw [hset, ih hrest hlength]

theorem update_eq (h : table.Rearranged name place line altered) (hrect : table.Rectangular)
    (hassigned : Name.NotAmong name (assignments.map Assignment.column))
    (hcondition : Name.NotAmong name condition.columns) :
    altered.update assignments condition = (table.update assignments condition).map
      (Prod.map (fun updated => { altered with rows := updated.rows.map line }) id) := by
  rw [Table.update, Table.update, h.targets_eq hassigned, h.matching_eq hrect hcondition]
  cases htargets : table.targets assignments with
  | error fault => rfl
  | ok targets =>
      cases hmarks : table.matching condition with
      | error fault => rfl
      | ok marks =>
          have haside := foundAside_of_targets hassigned htargets
          have hrows : ((marks.zip altered.rows).map fun entry =>
              if entry.1 then assign (targets.map (Prod.map place id)) entry.2 else entry.2) =
                ((marks.zip table.rows).map fun entry =>
                  if entry.1 then assign targets entry.2 else entry.2).map line := by
            rw [h.rows, List.zip_map_right, List.map_map, List.map_map]
            apply List.map_congr_left
            rintro ⟨mark, row⟩ hmem
            cases mark with
            | true => exact h.assign_line haside (hrect.width row (List.of_mem_zip hmem).2)
            | false => rfl
          exact congrArg (fun rows => Except.ok ({ altered with rows }, marks.count true)) hrows

theorem delete_eq (h : table.Rearranged name place line altered) (hrect : table.Rectangular)
    (hcondition : Name.NotAmong name condition.columns) :
    altered.delete condition = (table.delete condition).map
      (Prod.map (fun left => { altered with rows := left.rows.map line }) id) := by
  rw [Table.delete, Table.delete, h.matching_eq hrect hcondition]
  cases table.matching condition with
  | error fault => rfl
  | ok marks =>
      have hrows := marked_map_line (marks.map not) line table.rows
      rw [← h.rows] at hrows
      exact congrArg (fun rows => Except.ok ({ altered with rows }, marks.count true)) hrows

end Rearranged

/-- An operation fails alike before an alteration and after it, or it leaves the same table and
count whichever is done first. -/
structure Commutes (alter : Table → Except Error Table)
    (operation : Table → Except Error (Table × Nat)) (table altered : Table) : Prop where
  fault : fault? (operation altered) = fault? (operation table)
  result : ∀ changed count, operation table = .ok (changed, count) →
    ∃ final, alter changed = .ok final ∧ operation altered = .ok (final, count)

theorem commutes_of_eq {alter : Table → Except Error Table}
    {operation : Table → Except Error (Table × Nat)}
    (halter : ∀ rows, alter { table with rows } = .ok { altered with rows := rows.map line })
    (hkeeps : ∀ changed count, operation table = .ok (changed, count) →
      changed = { table with rows := changed.rows })
    (h : operation altered = (operation table).map
      (Prod.map (fun changed => { altered with rows := changed.rows.map line }) id)) :
    Commutes alter operation table altered := by
  constructor
  · rw [h]
    cases operation table with
    | error fault => rfl
    | ok result => rfl
  · intro changed count hdone
    refine ⟨{ altered with rows := changed.rows.map line }, ?_, ?_⟩
    · rw [hkeeps changed count hdone]
      exact halter changed.rows
    · rw [h, hdone]
      rfl

theorem eq_of_update {changed : Table} {count : Nat}
    (h : table.update assignments condition = .ok (changed, count)) :
    changed = { table with rows := changed.rows } := by
  obtain ⟨_, -, h⟩ := bind_eq_ok_iff.mp h
  obtain ⟨_, -, hchanged⟩ := bind_eq_ok_iff.mp h
  cases hchanged
  rfl

theorem eq_of_delete {changed : Table} {count : Nat}
    (h : table.delete condition = .ok (changed, count)) :
    changed = { table with rows := changed.rows } := by
  obtain ⟨_, -, hchanged⟩ := bind_eq_ok_iff.mp h
  cases hchanged
  rfl

/-- A column that is added and dropped again, in any spelling, leaves the table as it was. Whether
a column is added or dropped, everything that does not name it has the same answer before and after,
and leaves the same table and count whichever is done first. -/
theorem undisturbed_by_alteration (h : table.isConsistent) (name : String) :
    (∀ added, table.addColumn name = .ok added →
      ∀ spelling, Name.Same spelling name → added.dropColumn spelling = .ok table) ∧
    ∀ alter, Alters name alter → ∀ altered, alter table = .ok altered →
      (∀ names (condition : Option Condition), Name.NotAmong name names →
        Name.NotAmong name (condition.elim [] Condition.columns) →
          altered.select (some names) condition = table.select (some names) condition) ∧
      (∀ assignments (condition : Condition),
        Name.NotAmong name (assignments.map Assignment.column) →
          Name.NotAmong name condition.columns →
            Commutes alter (update · assignments condition) table altered) ∧
      ∀ condition : Condition, Name.NotAmong name condition.columns →
        Commutes alter (delete · condition) table altered := by
  have hrect := (isConsistent_iff.mp h).rectangular
  refine ⟨fun added hadd spelling => dropColumn_of_addColumn hrect hadd,
    fun alter halters altered haltered => ?_⟩
  obtain ⟨place, line, hrearranged, halter⟩ := halters.exists_rearranged haltered
  refine ⟨fun names condition hnames hcondition => ?_,
    fun assignments condition hassigned hcondition => ?_, fun condition hcondition => ?_⟩
  · exact hrearranged.select_eq hrect hnames hcondition
  · exact commutes_of_eq halter (fun _ _ => eq_of_update)
      (hrearranged.update_eq hrect hassigned hcondition)
  · exact commutes_of_eq halter (fun _ _ => eq_of_delete)
      (hrearranged.delete_eq hrect hcondition)

/-- The column of ages stands behind the one that is dropped below. -/
def grownUp : Condition := .comparison "Age" .greater (.integer "8")

theorem undisturbed_by_alteration_people :
    people.isConsistent ∧
      (∃ added, people.addColumn "Fee" = .ok added ∧ Name.Same "FEE" "Fee" ∧
        added.dropColumn "FEE" = .ok people) ∧
      ∃ altered, people.dropColumn "NAME" = .ok altered ∧ Name.NotAmong "NAME" ["AGE", "id"] ∧
        Name.NotAmong "NAME" ["age"] ∧
        altered.select (some ["AGE", "id"]) (some grownUp) =
          people.select (some ["AGE", "id"]) (some grownUp) ∧
        Commutes (dropColumn · "NAME") (update · [⟨"age", .integer "31"⟩] grownUp) people
          altered ∧
        Commutes (dropColumn · "NAME") (delete · grownUp) people altered := by
  have hpeople : people.isConsistent = true := by cbv
  have hfree : people.columnIndex? "Fee" = none := by cbv
  have hname : people.columnIndex? "NAME" = some 1 := by cbv
  have hspelling : Name.Same "FEE" "Fee" := by cbv
  have hid : ¬Name.Same "Fee" idColumn := of_decide_eq_false (by cbv)
  have hAge : ¬Name.Same "Age" "NAME" := of_decide_eq_false (by cbv)
  have hAGE : ¬Name.Same "AGE" "NAME" := of_decide_eq_false (by cbv)
  have hage : ¬Name.Same "age" "NAME" := of_decide_eq_false (by cbv)
  have hidName : ¬Name.Same "id" "NAME" := of_decide_eq_false (by cbv)
  have hadd : people.addColumn "Fee" = .ok { people with
      columns := people.columns ++ ["Fee"]
      rows := people.rows.map (· ++ [""]) } := by
    refine addColumn_eq_ok_iff.mpr ⟨?_, rfl⟩
    rw [checkNew, if_neg hid, hfree]
    rfl
  have hdrop : people.dropColumn "NAME" = .ok { people with
      columns := people.columns.eraseIdx 1
      rows := people.rows.map (·.eraseIdx 1) } :=
    dropColumn_eq_ok_iff.mpr ⟨1, writable_eq_ok_iff.mpr ⟨by decide, hname⟩, rfl⟩
  have hselected : Name.NotAmong "NAME" ["AGE", "id"] := by
    simp [Name.NotAmong, hAGE, hidName]
  have hassigned : Name.NotAmong "NAME" ["age"] := by
    simp [Name.NotAmong, hage]
  have hcondition : Name.NotAmong "NAME" grownUp.columns := by
    simp [Name.NotAmong, grownUp, Condition.columns, hAge]
  obtain ⟨hselect, hupdate, hdelete⟩ :=
    (undisturbed_by_alteration hpeople "NAME").2 _ .drop _ hdrop
  exact ⟨hpeople,
    ⟨_, hadd, hspelling, (undisturbed_by_alteration hpeople "Fee").1 _ hadd "FEE" hspelling⟩,
    _, hdrop, hselected, hassigned, hselect _ (some grownUp) hselected hcondition,
    hupdate [⟨"age", .integer "31"⟩] grownUp hassigned hcondition, hdelete grownUp hcondition⟩

end Table

end Rowbase
