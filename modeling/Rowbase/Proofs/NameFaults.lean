import Rowbase.Proofs.ConditionTruth

/-!
# Faults of queries and changes of rows

Whether a table can be asked or changed, and what is said if not, is told by the names of its
columns alone. A name that no column has is reported where it first stands: in the list of
columns before the condition, and among assignments, where the identity column is refused as well,
before the condition. The rows have no part in it, for a condition of known names never fails on
a row.
-/

namespace Rowbase

namespace Table

/-! ## Judged by names -/

/-- The first of some names that none of the columns has. -/
def firstUnknown? (columns names : List String) : Option String :=
  names.find? fun name => !columns.any fun column => Name.Same column name

/-- Why a name cannot be assigned to: it is that of the first column, or no column has it. -/
def targetFault? (columns : List String) (name : String) : Option Error :=
  if columns.head?.any fun column => Name.Same column name then some .identityColumn
  else (firstUnknown? columns [name]).map .unknownColumn

/-- Why a condition cannot be judged. -/
def conditionFault? (columns : List String) (condition : Condition) : Option Error :=
  (firstUnknown? columns condition.columns).map .unknownColumn

/-- Why a query for columns of the rows that satisfy a condition fails. -/
def selectFault? (columns : List String) (wanted : Option (List String))
    (condition : Option Condition) : Option Error :=
  ((firstUnknown? columns (wanted.getD [])).map .unknownColumn).or
    (condition.bind (conditionFault? columns))

/-- Why assignments to the rows that satisfy a condition fail. -/
def updateFault? (columns : List String) (assignments : List Assignment) (condition : Condition) :
    Option Error :=
  (assignments.findSome? fun assignment => targetFault? columns assignment.column).or
    (conditionFault? columns condition)

variable {table other : Table} {condition : Condition}

theorem firstUnknown?_singleton (columns : List String) (name : String) :
    firstUnknown? columns [name] =
      if columns.any fun column => Name.Same column name then none else some name := by
  rw [firstUnknown?, List.find?_singleton]
  cases columns.any fun column => Name.Same column name with
  | true => rfl
  | false => rfl

theorem isSome_columnIndex? (table : Table) (name : String) :
    (table.columnIndex? name).isSome = table.columns.any fun column => Name.Same column name :=
  List.findIdx?_isSome

/-- There is no unknown name exactly if every name finds a column. -/
theorem firstUnknown?_eq_none_iff {names : List String} :
    firstUnknown? table.columns names = none ↔
      ∀ name ∈ names, (table.columnIndex? name).isSome := by
  simp only [firstUnknown?, List.find?_eq_none, isSome_columnIndex?, Bool.not_eq_true',
    Bool.not_eq_false]

/-- The first fault of some names is that of the first unknown one. -/
theorem findSome?_firstUnknown? (columns names : List String) :
    (names.findSome? fun name => (firstUnknown? columns [name]).map Error.unknownColumn) =
      (firstUnknown? columns names).map .unknownColumn := by
  induction names with
  | nil => rfl
  | cons name rest ih =>
      have hcons : firstUnknown? columns (name :: rest) =
          (firstUnknown? columns [name]).or (firstUnknown? columns rest) := by
        simp only [firstUnknown?, ← List.find?_append, List.singleton_append]
      rw [List.findSome?_cons, ih, hcons]
      cases firstUnknown? columns [name] with
      | none => rfl
      | some unknown => rfl

/-! ## The parts of an operation -/

theorem fault?_resolve (table : Table) (name : String) :
    fault? (table.resolve name) = (firstUnknown? table.columns [name]).map .unknownColumn := by
  rw [resolve, firstUnknown?_singleton, ← isSome_columnIndex?]
  cases table.columnIndex? name with
  | none => rfl
  | some index => rfl

theorem fault?_writable (table : Table) (name : String) :
    fault? (table.writable name) = targetFault? table.columns name := by
  rw [writable, targetFault?, firstUnknown?_singleton, ← isSome_columnIndex?, columnIndex?]
  cases table.columns with
  | nil => rfl
  | cons first rest =>
      rw [List.findIdx?_cons, List.head?_cons, Option.any_some]
      cases decide (Name.Same first name) with
      | true => rfl
      | false =>
          cases rest.findIdx? fun column => Name.Same column name with
          | none => rfl
          | some index => rfl

theorem fault?_wanted (table : Table) (wanted : Option (List String)) :
    fault? (table.wanted wanted) =
      (firstUnknown? table.columns (wanted.getD [])).map .unknownColumn := by
  cases wanted with
  | none => rfl
  | some names =>
      rw [Table.wanted, fault?_mapM]
      simp only [fault?_resolve]
      exact findSome?_firstUnknown? table.columns names

theorem fault?_targets (table : Table) (assignments : List Assignment) :
    fault? (table.targets assignments) =
      assignments.findSome? fun assignment => targetFault? table.columns assignment.column := by
  rw [targets, fault?_mapM]
  congr 1
  funext assignment
  rw [fault?_bind none fun _ _ => rfl, Option.or_none, fault?_writable]

/-- A condition whose names are known never fails on a row. -/
theorem Rectangular.fault?_matching (h : table.Rectangular) (condition : Condition) :
    fault? (table.matching condition) = conditionFault? table.columns condition := by
  cases hfault : firstUnknown? table.columns condition.columns with
  | none =>
      rw [h.matching_eq_ok (firstUnknown?_eq_none_iff.mp hfault), conditionFault?, hfault]
      rfl
  | some unknown =>
      have hvalid : condition.validate (fun name => (table.columnIndex? name).isSome) =
          .error (.unknownColumn unknown) := by
        simp only [Condition.validate, isSome_columnIndex?]
        rw [firstUnknown?] at hfault
        rw [hfault]
      rw [matching, hvalid, conditionFault?, hfault]
      rfl

theorem Rectangular.fault?_matchingAll (h : table.Rectangular) (condition : Option Condition) :
    fault? (table.matchingAll condition) = condition.bind (conditionFault? table.columns) := by
  cases condition with
  | none => rfl
  | some condition => exact h.fault?_matching condition

/-! ## Whole operations -/

namespace Rectangular

theorem fault?_select (h : table.Rectangular) (wanted : Option (List String))
    (condition : Option Condition) :
    fault? (table.select wanted condition) = selectFault? table.columns wanted condition := by
  rw [selectFault?, ← fault?_wanted]
  refine fault?_bind _ fun indices _ => ?_
  rw [fault?_bind none fun _ _ => rfl, Option.or_none, h.fault?_matchingAll]

theorem fault?_update (h : table.Rectangular) (assignments : List Assignment)
    (condition : Condition) :
    fault? (table.update assignments condition) =
      updateFault? table.columns assignments condition := by
  rw [updateFault?, ← fault?_targets]
  refine fault?_bind _ fun targets _ => ?_
  rw [fault?_bind none fun _ _ => rfl, Option.or_none, h.fault?_matching]

theorem fault?_delete (h : table.Rectangular) (condition : Condition) :
    fault? (table.delete condition) = conditionFault? table.columns condition := by
  rw [Table.delete, fault?_bind none fun _ _ => rfl, Option.or_none, h.fault?_matching]

end Rectangular

/-- Queries and changes of rows fail by the names of the columns: two tables with the same columns
and other rows fail in the same way or not at all. A condition that has been found valid is judged
on every row, and each of its names stands for a field that the row has. -/
theorem faults_of_columns (h : table.isConsistent) (hother : other.isConsistent)
    (hcolumns : other.columns = table.columns) :
    (∀ wanted condition,
      fault? (table.select wanted condition) = selectFault? table.columns wanted condition ∧
        fault? (other.select wanted condition) = fault? (table.select wanted condition)) ∧
    (∀ assignments condition,
      fault? (table.update assignments condition) =
          updateFault? table.columns assignments condition ∧
        fault? (other.update assignments condition) =
          fault? (table.update assignments condition)) ∧
    (∀ condition,
      fault? (table.delete condition) = conditionFault? table.columns condition ∧
        fault? (other.delete condition) = fault? (table.delete condition)) ∧
    ∀ condition : Condition,
      condition.validate (fun name => (table.columnIndex? name).isSome) = .ok () →
        ∀ row ∈ table.rows,
          (∃ holds, condition.evaluate (table.field? row) = .ok holds) ∧
            ∀ name ∈ condition.columns,
              ∃ index, table.columnIndex? name = some index ∧ index < row.length := by
  have hrect := (isConsistent_iff.mp h).rectangular
  have hrect' := (isConsistent_iff.mp hother).rectangular
  refine ⟨fun wanted condition => ?_, fun assignments condition => ?_, fun condition => ?_,
    fun condition hvalid row hrow => ?_⟩
  · rw [hrect.fault?_select, hrect'.fault?_select, hcolumns]
    exact ⟨rfl, rfl⟩
  · rw [hrect.fault?_update, hrect'.fault?_update, hcolumns]
    exact ⟨rfl, rfl⟩
  · rw [hrect.fault?_delete, hrect'.fault?_delete, hcolumns]
    exact ⟨rfl, rfl⟩
  · have hknown := Condition.validate_eq_ok_iff.mp hvalid
    refine ⟨⟨_, hrect.evaluate_eq_meets hknown hrow⟩, fun name hname => ?_⟩
    obtain ⟨index, hindex⟩ := Option.isSome_iff_exists.mp (hknown name hname)
    exact ⟨index, hindex, hrect.lt_length hrow hindex⟩

/-- A table of people. -/
def people : Table where
  name := "people"
  columns := ["id", "name", "age"]
  rows := [["1", "Ann", "30"], ["3", "Ben", "7"]]
  nextId := 4

/-- A table with the same columns and without people. -/
def nobody : Table where
  name := "nobody"
  columns := ["id", "name", "age"]
  rows := []
  nextId := 1

/-- The fee is unknown, but in the row of Ben it would not be looked at. -/
def dearAnn : Condition :=
  .and (.comparison "NAME" .equal (.text "Ann")) (.comparison "fee" .greater (.integer "1"))

/-- Both names are known; the second is looked at in the row of Ann only. -/
def oldAnn : Condition :=
  .and (.comparison "NAME" .equal (.text "Ann")) (.comparison "Age" .greater (.integer "8"))

theorem faults_of_columns_people :
    people.isConsistent ∧ nobody.isConsistent ∧ nobody.columns = people.columns ∧
      fault? (people.select (some ["pay"]) (some dearAnn)) = some (.unknownColumn "pay") ∧
      fault? (nobody.select (some ["pay"]) (some dearAnn)) = some (.unknownColumn "pay") ∧
      fault? (people.update [⟨"age", .null⟩, ⟨"ID", .null⟩, ⟨"pay", .null⟩] dearAnn) =
        some .identityColumn ∧
      fault? (nobody.delete dearAnn) = some (.unknownColumn "fee") ∧
      oldAnn.validate (fun name => (people.columnIndex? name).isSome) = .ok () ∧
      ∃ holds, oldAnn.evaluate (people.field? ["3", "Ben", "7"]) = .ok holds := by
  have hpeople : people.isConsistent = true := by cbv
  have hnobody : nobody.isConsistent = true := by cbv
  have hname : (people.columnIndex? "NAME").isSome = true := by cbv
  have hage : (people.columnIndex? "Age").isSome = true := by cbv
  have hfee : conditionFault? nobody.columns dearAnn = some (.unknownColumn "fee") := by
    have hcolumns : dearAnn.columns = ["NAME", "fee"] := rfl
    have hunknown : firstUnknown? nobody.columns ["NAME", "fee"] = some "fee" := by
      rw [firstUnknown?, List.find?_cons_of_neg (ne_true_of_eq_false (by cbv)),
        List.find?_cons_of_pos (by cbv)]
    rw [conditionFault?, hcolumns, hunknown, Option.map_some]
  have hvalid : oldAnn.validate (fun name => (people.columnIndex? name).isSome) = .ok () := by
    simp only [Condition.validate_eq_ok_iff, oldAnn, Condition.columns, List.singleton_append,
      List.forall_mem_cons, hname, hage]
    simp
  have hpay : selectFault? people.columns (some ["pay"]) (some dearAnn) =
      some (.unknownColumn "pay") := by
    have hunknown : firstUnknown? people.columns ["pay"] = some "pay" := by cbv
    simp only [selectFault?, Option.getD_some, hunknown, Option.map_some, Option.some_or]
  have hid : updateFault? people.columns [⟨"age", .null⟩, ⟨"ID", .null⟩, ⟨"pay", .null⟩] dearAnn =
      some .identityColumn := by
    have hknown : targetFault? people.columns "age" = none := by cbv
    have hrefused : targetFault? people.columns "ID" = some .identityColumn := by cbv
    rw [updateFault?, List.findSome?_cons_of_isNone (by rw [hknown]; rfl),
      List.findSome?_cons_of_isSome (by rw [hrefused]; rfl), hrefused, Option.some_or]
  obtain ⟨hselect, hupdate, hdelete, hrows⟩ := faults_of_columns hpeople hnobody rfl
  refine ⟨hpeople, hnobody, rfl, (hselect _ _).1.trans hpay,
    ((hselect _ _).2.trans (hselect _ _).1).trans hpay, (hupdate _ _).1.trans hid,
    (hdelete dearAnn).2.trans ((hdelete dearAnn).1.trans hfee), hvalid, ?_⟩
  exact (hrows oldAnn hvalid ["3", "Ben", "7"] (by simp [people])).1

end Table

end Rowbase
