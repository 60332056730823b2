import Rowbase.Proofs.AcceptedDocuments
import Rowbase.Proofs.NumericComparison
import Rowbase.Proofs.SelectedRows

/-!
# Rows found by their identity

A condition on the identity compares numbers, as any condition on a column does. No two rows have
one identity, but from 2⁵³ on two identities can be nearest to one number, and a condition that asks
for the one finds the row of the other as well. The row of an identity is always found, and it is
found alone if no other identity of the table shares its number, as below 2⁵³ none does.
-/

namespace Rowbase

open Binary64

variable {m n : ℕ}

/-! ## Numbers shared by identities -/

/-- Below 2⁵³ there is a number of its own for every whole one. -/
theorem nearestUnits_lt_of_lt (hm : m < 2 ^ 53) (h : m < n) :
    nearestUnits m < nearestUnits n := by
  calc
    nearestUnits m = m * unitsPerOne := nearestUnits_natCast hm.le
    _ < (m + 1) * unitsPerOne := Nat.mul_lt_mul_of_pos_right (Nat.lt_succ_self m) unitsPerOne_pos
    _ = nearestUnits (m + 1 : ℕ) := (nearestUnits_natCast hm).symm
    _ ≤ nearestUnits n := nearestUnits_mono (Nat.cast_le.mpr h)

theorem nearestUnits_ne (hn : n < 2 ^ 53) (h : m ≠ n) : nearestUnits m ≠ nearestUnits n := by
  rcases Nat.lt_or_gt_of_ne h with hlt | hgt
  · exact (nearestUnits_lt_of_lt (hlt.trans hn) hlt).ne
  · exact (nearestUnits_lt_of_lt hn hgt).ne'

namespace Table

/-! ## Fields that are identities -/

theorem numeral_of_digits {sign field : String} (hsign : sign = "" ∨ sign = "+")
    {digits : List Char} (hfield : field.toList = sign.toList ++ digits) (hsome : digits ≠ [])
    (hall : ∀ c ∈ digits, c.isDigit) : Numeral field (Decimal.ofDigits digits) := by
  have hdigits : Digits (String.ofList digits) := ⟨by simpa using hsome, by simpa using hall⟩
  have hvalue : wholeValue (String.ofList digits) = Decimal.ofDigits digits := by
    rw [← Decimal.ofDigits_toList, String.toList_ofList]
  have hsigned : sign ∈ signs ∧ sign ≠ "-" := by
    rcases hsign with rfl | rfl <;> decide
  have hnumeral := Numeral.integer hsigned.1 hdigits
  have htext : sign ++ String.ofList digits = field := String.toList_inj.mp (by simp [hfield])
  rwa [hvalue, withSign, if_neg hsigned.2, htext] at hnumeral

theorem numeral_of_identity? {field : String} (h : identity? field = some m) :
    Numeral field m := by
  simp only [identity?, Option.ite_none_right_eq_some, Bool.and_eq_true, Bool.not_eq_true',
    List.isEmpty_eq_false_iff, List.all_eq_true] at h
  split at h
  next rest hplus =>
    obtain ⟨⟨hsome, hall⟩, hvalue⟩ := h
    cases hvalue
    exact numeral_of_digits (.inr rfl) hplus hsome hall
  next =>
    obtain ⟨⟨hsome, hall⟩, hvalue⟩ := h
    cases hvalue
    exact numeral_of_digits (.inl rfl) rfl hsome hall

/-- A condition on the identity. -/
def identityIs (n : ℕ) : Condition :=
  .comparison idColumn .equal (.integer (toString n))

/-- Whether the identity of a row and the given one are nearest to the same number. -/
def sharesNumber (n : ℕ) (row : Row) : Bool :=
  (row.head?.bind identity?).any fun id : ℕ => nearestUnits id = nearestUnits n

theorem equal_identity_eq {field : String} (hfield : identity? field = some m) (hn : n < 2 ^ 64) :
    compareField field .equal (.integer (toString n)) =
      decide (nearestUnits m = nearestUnits n) := by
  have hm : Numeral field m := numeral_of_identity? hfield
  have hnumeral : Numeral (toString n) n := numeral_of_identity? (identity?_toString n)
  have hnBound : |(n : ℚ)| < bound := by
    rw [Nat.abs_cast]
    exact natCast_lt_bound hn.le
  rw [hm.compareField_eq hnumeral List.mem_cons_self (by decide)]
  split_ifs with hfinite
  · simp [Comparator.holds, nearestCount_of_nonneg]
  · -- an identity beyond the finite numbers is not nearest to that of a finite one
    rw [Nat.abs_cast] at hfinite
    have hlarge : ¬nearestUnits m < limit := fun hlt =>
      hfinite ⟨(nearestUnits_lt_limit_iff (Nat.cast_nonneg m)).mp hlt, hnBound⟩
    have hsmall : nearestUnits n < limit :=
      (nearestUnits_lt_limit_iff (Nat.cast_nonneg n)).mpr (natCast_lt_bound hn.le)
    have hne : nearestUnits m ≠ nearestUnits n := fun heq =>
      hlarge (heq.trans_lt hsmall)
    simp [Comparator.holdsUnordered, hne]

namespace Consistent

variable {table : Table} {row : Row} {before after : List Row} {assignments : List Assignment}

theorem exists_identity (h : table.Consistent) (hrow : row ∈ table.rows) :
    ∃ id, row.head?.bind identity? = some id := by
  obtain ⟨ids, hids, -⟩ := h.ascending
  have hmem : row.head?.bind identity? ∈ ids.map some := by
    rw [← hids]
    exact List.mem_map_of_mem hrow
  obtain ⟨id, -, hid⟩ := List.mem_map.mp hmem
  exact ⟨id, hid.symm⟩

/-- No other row has the identity of a row. -/
theorem identity_ne (h : table.Consistent) (hrows : table.rows = before ++ row :: after)
    {other : Row} (hother : other ∈ before ++ after) :
    other.head?.bind identity? ≠ row.head?.bind identity? := by
  obtain ⟨ids, hids, hascending, -⟩ := h.ascending
  have hnodup : (table.rows.map fun row => row.head?.bind identity?).Nodup := by
    rw [hids]
    exact List.Nodup.map (Option.some_injective ℕ) (hascending.imp Nat.ne_of_lt)
  rw [hrows, List.map_append, List.map_cons, List.nodup_middle, ← List.map_append,
    List.nodup_cons] at hnodup
  intro heq
  exact hnodup.1 (heq ▸ List.mem_map_of_mem hother)

theorem known_identityIs (h : table.Consistent) :
    ∀ name ∈ (identityIs n).columns, (table.columnIndex? name).isSome := by
  simp [identityIs, Condition.columns, h.columnIndex?_idColumn]

/-- The condition is true of the rows whose identities share the number. -/
theorem meets_identityIs (h : table.Consistent) (hn : n < 2 ^ 64) (hrow : row ∈ table.rows) :
    table.meets (identityIs n) row = sharesNumber n row := by
  obtain ⟨id, hid⟩ := h.exists_identity hrow
  obtain ⟨field, hfield, hidentity⟩ := Option.bind_eq_some_iff.mp hid
  have hfirst : table.field? row idColumn = some field := by
    rw [field?, h.columnIndex?_idColumn, Option.bind_some, ← List.head?_eq_getElem?, hfield]
  rw [meets, identityIs, Condition.truth, hfirst, Option.any_some, sharesNumber, hid,
    Option.any_some, equal_identity_eq hidentity hn]

theorem matching_identityIs (h : table.Consistent) (hn : n < 2 ^ 64) :
    table.matching (identityIs n) = .ok (table.rows.map (sharesNumber n)) := by
  rw [h.rectangular.matching_eq_ok h.known_identityIs]
  exact congrArg Except.ok (List.map_congr_left fun row hrow => h.meets_identityIs hn hrow)

theorem length_places_identityIs (h : table.Consistent) (hn : n < 2 ^ 64) :
    (table.places (identityIs n)).length = table.rows.countP (sharesNumber n) := by
  rw [length_places, ← List.countP_eq_length_filter]
  exact List.countP_congr fun row hrow => by rw [h.meets_identityIs hn hrow]

theorem update_identityIs (h : table.Consistent) (hn : n < 2 ^ 64)
    (hassigned : table.Assignable assignments) :
    table.update assignments (identityIs n) =
      .ok ({ table with
        rows := table.rows.map fun row =>
          if sharesNumber n row then table.assigned assignments row else row },
        table.rows.countP (sharesNumber n)) := by
  have hrows : (table.rows.map fun row =>
      if table.meets (identityIs n) row then table.assigned assignments row else row) =
        table.rows.map fun row =>
          if sharesNumber n row then table.assigned assignments row else row :=
    List.map_congr_left fun row hrow => by rw [h.meets_identityIs hn hrow]
  rw [h.rectangular.update_eq_ok h.known_identityIs hassigned, h.length_places_identityIs hn, hrows]

theorem delete_identityIs (h : table.Consistent) (hn : n < 2 ^ 64) :
    table.delete (identityIs n) =
      .ok ({ table with rows := table.rows.filter fun row => !sharesNumber n row },
        table.rows.countP (sharesNumber n)) := by
  have hrows : (table.rows.filter fun row => !table.meets (identityIs n) row) =
      table.rows.filter fun row => !sharesNumber n row :=
    List.filter_congr fun row hrow => by rw [h.meets_identityIs hn hrow]
  rw [h.rectangular.delete_eq_ok h.known_identityIs, h.length_places_identityIs hn, hrows]

end Consistent

/-! ## One row among others -/

section Alone

variable {p : Row → Bool} {row : Row} {before after : List Row}

theorem map_alone (hrow : p row = true) (hothers : ∀ other ∈ before ++ after, p other = false) :
    (before ++ row :: after).map p =
      List.replicate before.length false ++ true :: List.replicate after.length false := by
  obtain ⟨hbefore, hafter⟩ := List.forall_mem_append.mp hothers
  rw [List.map_append, List.map_cons, hrow, List.map_eq_replicate_iff.mpr hbefore,
    List.map_eq_replicate_iff.mpr hafter]

theorem countP_alone (hrow : p row = true) (hothers : ∀ other ∈ before ++ after, p other = false) :
    (before ++ row :: after).countP p = 1 := by
  obtain ⟨hbefore, hafter⟩ := List.forall_mem_append.mp hothers
  have hzero {rows : List Row} (h : ∀ other ∈ rows, p other = false) : rows.countP p = 0 :=
    List.countP_eq_zero.mpr fun other hother => by simp [h other hother]
  rw [List.countP_append, List.countP_cons_of_pos hrow, hzero hbefore, hzero hafter]

theorem change_alone (hrow : p row = true) (hothers : ∀ other ∈ before ++ after, p other = false)
    (change : Row → Row) :
    ((before ++ row :: after).map fun row => if p row then change row else row) =
      before ++ change row :: after := by
  obtain ⟨hbefore, hafter⟩ := List.forall_mem_append.mp hothers
  have hsame {rows : List Row} (h : ∀ other ∈ rows, p other = false) :
      (rows.map fun row => if p row then change row else row) = rows :=
    (List.map_congr_left fun other hother => by simp [h other hother]).trans (List.map_id rows)
  rw [List.map_append, List.map_cons, if_pos hrow, hsame hbefore, hsame hafter]

theorem filter_not_alone (hrow : p row = true)
    (hothers : ∀ other ∈ before ++ after, p other = false) :
    ((before ++ row :: after).filter fun row => !p row) = before ++ after := by
  rw [List.filter_append, List.filter_cons_of_neg (by simp [hrow]), ← List.filter_append]
  exact List.filter_eq_self.mpr fun other hother => by simp [hothers other hother]

end Alone

/-- A condition on an identity finds the rows whose identities share its number: the row itself
always, and it alone if the identity is below 2⁵³. An update or a deletion changes those rows and
no others. -/
theorem rows_of_identity {table : Table} {before after : List Row} {row : Row}
    (h : table.isConsistent) (hrows : table.rows = before ++ row :: after)
    (hid : row.head? = some (toString n)) (hn : n < 2 ^ 64) :
    table.matching (identityIs n) = .ok (table.rows.map (sharesNumber n)) ∧
    (∀ assignments, table.Assignable assignments →
      table.update assignments (identityIs n) =
        .ok ({ table with
          rows := table.rows.map fun row =>
            if sharesNumber n row then table.assigned assignments row else row },
          table.rows.countP (sharesNumber n))) ∧
    table.delete (identityIs n) =
      .ok ({ table with rows := table.rows.filter fun row => !sharesNumber n row },
        table.rows.countP (sharesNumber n)) ∧
    sharesNumber n row = true ∧
    (n < 2 ^ 53 → ∀ other ∈ before ++ after, sharesNumber n other = false) ∧
    ((∀ other ∈ before ++ after, sharesNumber n other = false) →
      table.matching (identityIs n) =
        .ok (List.replicate before.length false ++ true :: List.replicate after.length false) ∧
      (∀ assignments, table.Assignable assignments →
        table.update assignments (identityIs n) =
          .ok ({ table with rows := before ++ table.assigned assignments row :: after }, 1)) ∧
      table.delete (identityIs n) = .ok ({ table with rows := before ++ after }, 1)) := by
  have hconsistent := isConsistent_iff.mp h
  have hidentity : row.head?.bind identity? = some n := by
    rw [hid, Option.bind_some, identity?_toString]
  have hself : sharesNumber n row = true := by
    rw [sharesNumber, hidentity, Option.any_some, decide_eq_true rfl]
  refine ⟨hconsistent.matching_identityIs hn, fun assignments => hconsistent.update_identityIs hn,
    hconsistent.delete_identityIs hn, hself, ?small, ?alone⟩
  case small =>
    intro hsmall other hother
    have hmem : other ∈ table.rows := by
      rw [hrows]
      exact List.perm_middle.symm.subset (List.mem_cons_of_mem _ hother)
    obtain ⟨m, hm⟩ := hconsistent.exists_identity hmem
    have hne := hconsistent.identity_ne hrows hother
    rw [hm, hidentity, Ne, Option.some_inj] at hne
    rw [sharesNumber, hm, Option.any_some]
    exact decide_eq_false (nearestUnits_ne hsmall hne)
  case alone =>
    intro hothers
    refine ⟨?_, fun assignments hassigned => ?_, ?_⟩
    · rw [hconsistent.matching_identityIs hn, hrows, map_alone hself hothers]
    · rw [hconsistent.update_identityIs hn hassigned, hrows, change_alone hself hothers,
        countP_alone hself hothers]
    · rw [hconsistent.delete_identityIs hn, hrows, filter_not_alone hself hothers,
        countP_alone hself hothers]

/-- Three identities about 2⁵³, the last two of which are nearest to one number. -/
def neighbours : Table where
  name := "neighbours"
  columns := ["id", "name"]
  rows := [["9007199254740991", "Ann"], ["9007199254740992", "Ben"], ["9007199254740993", "Cid"]]
  nextId := 9007199254740994

theorem isConsistent_neighbours : neighbours.isConsistent := by
  decide +kernel

theorem rows_of_identity_below :
    neighbours.isConsistent ∧
      neighbours.matching (identityIs 9007199254740991) = .ok [true, false, false] ∧
      neighbours.update [⟨"NAME", .null⟩] (identityIs 9007199254740991) =
        .ok ({ neighbours with
          rows := ["9007199254740991", "NULL"] :: neighbours.rows.tail }, 1) ∧
      neighbours.delete (identityIs 9007199254740991) =
        .ok ({ neighbours with rows := neighbours.rows.tail }, 1) := by
  have hname : neighbours.columnIndex? "NAME" = some 1 := by cbv
  have hassignable : neighbours.Assignable [⟨"NAME", .null⟩] := by
    simp [Assignable, hname]
  have hfirst : neighbours.lastAssigned? [⟨"NAME", .null⟩] 0 = none := by
    simp [lastAssigned?, hname]
  have hsecond : neighbours.lastAssigned? [⟨"NAME", .null⟩] 1 = some "NULL" := by
    simp [lastAssigned?, hname, Literal.field]
  have hassigned : neighbours.assigned [⟨"NAME", .null⟩] ["9007199254740991", "Ann"] =
      ["9007199254740991", "NULL"] := by
    simp [assigned, hfirst, hsecond]
  have hrows : neighbours.rows =
      [] ++ ["9007199254740991", "Ann"] :: neighbours.rows.tail := rfl
  have hid : ["9007199254740991", "Ann"].head? = some (toString 9007199254740991) := by
    decide +kernel
  obtain ⟨-, -, -, -, hsmall, halone⟩ :=
    rows_of_identity isConsistent_neighbours hrows hid (by decide)
  obtain ⟨hmatching, hupdate, hdelete⟩ := halone (hsmall (by decide))
  have hchanged := hupdate _ hassignable
  rw [hassigned] at hchanged
  exact ⟨isConsistent_neighbours, hmatching, hchanged, hdelete⟩

/-- The row before it is found with the last one, and is deleted with it. -/
theorem rows_of_identity_above :
    neighbours.isConsistent ∧
      neighbours.rows[2]?.map List.head? = some (some (toString 9007199254740993)) ∧
      neighbours.matching (identityIs 9007199254740993) = .ok [false, true, true] ∧
      neighbours.delete (identityIs 9007199254740993) =
        .ok ({ neighbours with rows := [["9007199254740991", "Ann"]] }, 2) := by
  have hconsistent := isConsistent_iff.mp isConsistent_neighbours
  have hmarks : neighbours.rows.map (sharesNumber 9007199254740993) = [false, true, true] := by
    decide +kernel
  refine ⟨isConsistent_neighbours, by decide +kernel, ?_, ?_⟩
  · rw [hconsistent.matching_identityIs (by decide), hmarks]
  · have hkept : (neighbours.rows.filter fun row => !sharesNumber 9007199254740993 row) =
        [["9007199254740991", "Ann"]] := by
      decide +kernel
    have hcount : neighbours.rows.countP (sharesNumber 9007199254740993) = 2 := by
      decide +kernel
    rw [hconsistent.delete_identityIs (by decide), hkept, hcount]

end Table

end Rowbase
