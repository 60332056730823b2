import Rowbase.Command.Write
import Rowbase.Proofs.NumericComparison
import Rowbase.Proofs.SelectedRows

/-!
# Literals and the fields they are stored as

A field is equal to the literal that it was stored as, and a condition that asks for the literal
selects its row. The exceptions are the numbers of `Binary64.bound` and above: such a numeral is
nearest to no finite number, and what is no number differs from every number, itself included.
-/

namespace Rowbase

open Binary64

namespace Literal

/-- Some line has the token of the literal. -/
def Written (literal : Literal) : Prop :=
  ∃ line tokens, Token.scan line = .ok tokens ∧ literal.token ∈ tokens

/-- A number that is too large for a finite one to be nearest to it. -/
def Beyond (literal : Literal) : Prop :=
  ∃ numeral x, literal ∈ [.integer numeral, .decimal numeral] ∧ Numeral numeral x ∧ bound ≤ |x|

variable {literal : Literal} {numeral : String} {x : ℚ}

theorem Written.exists_numeral (h : literal.Written)
    (hliteral : literal ∈ [.integer numeral, .decimal numeral]) : ∃ x, Numeral numeral x := by
  obtain ⟨line, tokens, hscan, htoken⟩ := h
  have hnumeric := Token.numeric_of_scanChars hscan _ htoken
  fin_cases hliteral <;> exact hnumeric

theorem beyond_iff (h : Numeral numeral x)
    (hliteral : literal ∈ [.integer numeral, .decimal numeral]) :
    literal.Beyond ↔ bound ≤ |x| := by
  constructor
  · rintro ⟨other, y, hother, hy, hbeyond⟩
    have heq : other = numeral := by
      fin_cases hliteral <;> simpa [eq_comm] using hother
    subst heq
    have hnone := mt hy.isSome_fieldNumber?_iff.mp (not_lt.mpr hbeyond)
    exact not_lt.mp (mt h.isSome_fieldNumber?_iff.mpr hnone)
  · intro hbeyond
    exact ⟨numeral, x, hliteral, h, hbeyond⟩

theorem field_of_mem (hliteral : literal ∈ [.integer numeral, .decimal numeral]) :
    literal.field = numeral := by
  fin_cases hliteral <;> rfl

/-- A literal is equal to the field that it is stored as unless it is too large a number. -/
theorem Written.equal_field_iff (h : literal.Written) :
    compareField literal.field .equal literal = true ↔ ¬literal.Beyond := by
  have hnumeral {numeral : String} (hliteral : literal ∈ [.integer numeral, .decimal numeral]) :
      compareField literal.field .equal literal = true ↔ ¬literal.Beyond := by
    obtain ⟨x, hx⟩ := h.exists_numeral hliteral
    rw [field_of_mem hliteral, hx.compareField_eq hx hliteral (by decide), beyond_iff hx hliteral,
      not_le]
    split_ifs with hfinite
    · simp [Comparator.holds, hfinite.1]
    · simpa [Comparator.holdsUnordered] using hfinite
  cases literal with
  | integer numeral => exact hnumeral List.mem_cons_self
  | decimal numeral => exact hnumeral (List.mem_cons_of_mem _ List.mem_cons_self)
  | text content => simp [Beyond, field, equal_text_iff]
  | boolean value => simp [Beyond, field, compareField, Comparator.holdsUnordered, Name.Same]
  | null => simp [Beyond, field, compareField, Comparator.holdsUnordered]

end Literal

namespace Table

variable {table changed : Table} {values : List Literal} {id : ℕ}

theorem Rectangular.select_none_eq_ok (h : table.Rectangular) {condition : Condition}
    (hknown : ∀ name ∈ condition.columns, (table.columnIndex? name).isSome) :
    table.select none (some condition) =
      .ok { header := table.columns, rows := table.rows.filter (table.meets condition) } := by
  have hrows : (table.rows.filter (table.meets condition)).map
      (project · (List.range table.columns.length)) =
        table.rows.filter (table.meets condition) := by
    refine (List.map_congr_left fun row hrow => ?_).trans (List.map_id _)
    rw [← h.width row (List.mem_of_mem_filter hrow), project_range, id_eq]
  rw [h.select_eq_ok hknown rfl, project_range, hrows]

theorem rectangular_of_insert (h : table.Rectangular)
    (hinsert : table.insert values = .ok (changed, id)) : changed.Rectangular where
  columns_ne_nil := by
    obtain ⟨-, -, rfl⟩ := insert_eq_ok_iff.mp hinsert
    exact h.columns_ne_nil
  width := (h.insert hinsert).width

/-- A query for what a column was given in an insertion selects the new row if the literal is equal
to its field. -/
theorem exists_select_of_insert (h : table.Rectangular)
    (hinsert : table.insert values = .ok (changed, id)) {column : String} {index : ℕ}
    (hcolumn : table.columnIndex? column = some (index + 1)) {literal : Literal}
    (hvalue : values[index]? = some literal) :
    ∃ listing, changed.select none (some (.comparison column .equal literal)) = .ok listing ∧
      (toString id :: values.map Literal.field ∈ listing.rows ↔
        compareField literal.field .equal literal = true) := by
  have hrect := rectangular_of_insert h hinsert
  obtain ⟨-, rfl, hchanged⟩ := insert_eq_ok_iff.mp hinsert
  have hmem : toString table.nextId :: values.map Literal.field ∈ changed.rows := by
    simp [hchanged]
  have hindex : changed.columnIndex? column = some (index + 1) := by
    rw [hchanged]
    exact hcolumn
  have hknown : ∀ name ∈ (Condition.comparison column .equal literal).columns,
      (changed.columnIndex? name).isSome := by
    simp [Condition.columns, hindex]
  have hfield : changed.field? (toString table.nextId :: values.map Literal.field) column =
      some literal.field := by
    rw [field?, hindex, Option.bind_some, List.getElem?_cons_succ, List.getElem?_map, hvalue,
      Option.map_some]
  refine ⟨_, hrect.select_none_eq_ok hknown, ?_⟩
  rw [List.mem_filter, meets, Condition.truth, hfield, Option.any_some]
  exact and_iff_right hmem

end Table

/-- A literal is equal to the field that it is stored as, and a query for it selects the row that
was inserted with it, exactly if it is not too large a number. -/
theorem match_of_stored_literal {literal : Literal} (h : literal.Written) :
    (compareField literal.field .equal literal = true ↔ ¬literal.Beyond) ∧
    (compareField literal.field .notEqual literal = true ↔ literal.Beyond) ∧
    ∀ (table changed : Table) (values : List Literal) (id : ℕ) (column : String) (index : ℕ),
      table.Rectangular → table.insert values = .ok (changed, id) →
      table.columnIndex? column = some (index + 1) → values[index]? = some literal →
      ∃ listing, changed.select none (some (.comparison column .equal literal)) = .ok listing ∧
        (toString id :: values.map Literal.field ∈ listing.rows ↔ ¬literal.Beyond) := by
  refine ⟨h.equal_field_iff, ?_, ?_⟩
  · rw [notEqual_eq_not_equal, Bool.not_eq_true', ← Bool.not_eq_true, h.equal_field_iff, not_not]
  · intro table changed values id column index htable hinsert hcolumn hvalue
    rw [← h.equal_field_iff]
    exact Table.exists_select_of_insert htable hinsert hcolumn hvalue

/-- The column is named in capitals and the field keeps its last zero. -/
theorem match_of_stored_decimal :
    (Literal.decimal "-1.50").Written ∧
      compareField "-1.50" .equal (.decimal "-1.50") = true ∧
      ∃ changed id listing,
        Table.people.insert [.text "Dan", .decimal "-1.50"] = .ok (changed, id) ∧
        changed.select none (some (.comparison "AGE" .equal (.decimal "-1.50"))) = .ok listing ∧
        ["4", "Dan", "-1.50"] ∈ listing.rows := by
  have hwritten : (Literal.decimal "-1.50").Written :=
    ⟨"-1.50", [.decimal "-1.50"], by cbv, List.mem_cons_self⟩
  have htable : Table.people.Rectangular := ⟨by simp [Table.people], by simp [Table.people]⟩
  have hcolumn : Table.people.columnIndex? "AGE" = some 2 := by cbv
  obtain ⟨hequal, -, hselect⟩ := match_of_stored_literal hwritten
  have hfinite := hequal.mp (by decide +kernel)
  obtain ⟨listing, hlisting, hrow⟩ :=
    hselect Table.people _ [.text "Dan", .decimal "-1.50"] _ "AGE" 1 htable rfl hcolumn rfl
  exact ⟨hwritten, hequal.mpr hfinite, _, _, listing, rfl, hlisting, hrow.mpr hfinite⟩

/-! ## Numbers that are too large -/

/-- The digits of a power of ten. -/
def tenPow (zeros : ℕ) : String :=
  String.ofList ('1' :: List.replicate zeros '0')

theorem digits_tenPow (zeros : ℕ) : Digits (tenPow zeros) where
  some := by simp [tenPow]
  all := by simp [tenPow, List.mem_replicate]

theorem numeral_tenPow (zeros : ℕ) : Numeral (tenPow zeros) (10 ^ zeros : ℕ) := by
  have hvalue : wholeValue (tenPow zeros) = 10 ^ zeros := by
    rw [wholeValue, tenPow, String.toList_ofList, Nat.ofDigitChars_cons,
      Nat.ofDigitChars_replicate_zero]
    simp
  have hnumeral := Numeral.integer (show "" ∈ signs by decide) (digits_tenPow zeros)
  rw [String.empty_append, hvalue] at hnumeral
  exact hnumeral

theorem written_tenPow (zeros : ℕ) : (Literal.integer (tenPow zeros)).Written := by
  have hsign : "" ∈ signs := by decide
  have hscan := (Token.Lexeme.integer hsign (digits_tenPow zeros)).scanChars_eq
  rw [String.empty_append] at hscan
  exact ⟨_, _, hscan, List.mem_cons_self⟩

/-- A one with 309 zeros differs from itself. -/
theorem stored_literal_without_match :
    (Literal.integer (tenPow 309)).Written ∧
      compareField (tenPow 309) .equal (.integer (tenPow 309)) = false ∧
      compareField (tenPow 309) .notEqual (.integer (tenPow 309)) = true := by
  have hwritten := written_tenPow 309
  have hbeyond : (Literal.integer (tenPow 309)).Beyond := by
    rw [Literal.beyond_iff (numeral_tenPow 309) List.mem_cons_self, Nat.abs_cast]
    exact Decimal.bound_le_ten_pow le_rfl
  have hequal : compareField (tenPow 309) .equal (.integer (tenPow 309)) = false :=
    Bool.eq_false_iff.mpr (mt hwritten.equal_field_iff.mp (not_not.mpr hbeyond))
  exact ⟨hwritten, hequal, by rw [notEqual_eq_not_equal, hequal, Bool.not_false]⟩

end Rowbase
