import Rowbase.Proofs.TableInvariant

/-!
# The truth of conditions

A condition is judged from left to right, and a part that decides nothing any more is not looked
at. Where every name in the condition has a field this cannot be seen: the judgement never fails,
and it is the truth value of the condition with AND and OR as plain connectives. In a table whose
rows are as wide as its columns, the rows that a condition marks are those of which it is true.
-/

namespace Rowbase

namespace Condition

variable {condition : Condition} {field? : String → Option String}

/-- The truth value of a condition, given the field of each name. A comparison with a name that
has no field is false. -/
def truth (field? : String → Option String) : Condition → Bool
  | comparison column comparator literal =>
    (field? column).any fun field => compareField field comparator literal
  | and left right => left.truth field? && right.truth field?
  | or left right => left.truth field? || right.truth field?

theorem evaluate_eq_truth (h : ∀ name ∈ condition.columns, (field? name).isSome) :
    condition.evaluate field? = .ok (condition.truth field?) := by
  induction condition with
  | comparison column comparator literal =>
      obtain ⟨field, hfield⟩ := Option.isSome_iff_exists.mp (h column (.head _))
      simp only [evaluate, truth, hfield, Option.any_some]
  | and left right ihleft ihright =>
      obtain ⟨hleft, hright⟩ := List.forall_mem_append.mp h
      rw [evaluate, ihleft hleft, truth]
      cases left.truth field? with
      | true => exact ihright hright
      | false => rfl
  | or left right ihleft ihright =>
      obtain ⟨hleft, hright⟩ := List.forall_mem_append.mp h
      rw [evaluate, ihleft hleft, truth]
      cases left.truth field? with
      | true => rfl
      | false => exact ihright hright

theorem validate_eq_ok_iff {known : String → Bool} :
    condition.validate known = .ok () ↔ ∀ name ∈ condition.columns, known name = true := by
  unfold validate
  split
  next unknown hunknown =>
    have hmem := List.mem_of_find?_eq_some hunknown
    have hnot := List.find?_some hunknown
    refine iff_of_false (by simp) fun hall => ?_
    rw [hall unknown hmem] at hnot
    exact absurd hnot (by decide)
  next hnone =>
    rw [List.find?_eq_none] at hnone
    exact iff_of_true rfl fun name hname => by simpa using hnone name hname

end Condition

namespace Table

variable {table : Table} {condition : Condition}

/-- Whether a condition is true of a row. -/
def meets (table : Table) (condition : Condition) (row : Row) : Bool :=
  condition.truth (table.field? row)

/-- A name that finds a column finds a field in every row. -/
theorem Rectangular.lt_length (h : table.Rectangular) {row : Row} (hrow : row ∈ table.rows)
    {name : String} {index : Nat} (hindex : table.columnIndex? name = some index) :
    index < row.length := by
  obtain ⟨hlt, -⟩ := columnIndex?_eq_some_iff.mp hindex
  exact Nat.lt_of_lt_of_eq hlt (h.width row hrow).symm

theorem Rectangular.isSome_field? (h : table.Rectangular) {row : Row} (hrow : row ∈ table.rows)
    {name : String} (hname : (table.columnIndex? name).isSome) :
    (table.field? row name).isSome := by
  obtain ⟨index, hindex⟩ := Option.isSome_iff_exists.mp hname
  simp [field?, hindex, h.lt_length hrow hindex]

/-- A row is judged by the truth of the condition. -/
theorem Rectangular.evaluate_eq_meets (h : table.Rectangular)
    (hknown : ∀ name ∈ condition.columns, (table.columnIndex? name).isSome)
    {row : Row} (hrow : row ∈ table.rows) :
    condition.evaluate (table.field? row) = .ok (table.meets condition row) :=
  Condition.evaluate_eq_truth fun name hname => h.isSome_field? hrow (hknown name hname)

theorem Rectangular.matching_eq_ok (h : table.Rectangular)
    (hknown : ∀ name ∈ condition.columns, (table.columnIndex? name).isSome) :
    table.matching condition = .ok (table.rows.map (table.meets condition)) := by
  rw [matching, Condition.validate_eq_ok_iff.mpr hknown, ok_bind]
  exact mapM_eq_ok_map fun row hrow => h.evaluate_eq_meets hknown hrow

end Table

end Rowbase
