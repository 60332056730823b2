import Rowbase.Proofs.DatabaseInvariant
import Rowbase.Proofs.Readings

/-!
# Plain texts in tables

Commands that are read from lines put no control character into a table. A listing of a table
can therefore be cut into the fields it was made of.
-/

namespace Rowbase

namespace Table

/-- A regular table that holds no control character. -/
structure Legible (table : Table) : Prop extends Regular table where
  plainColumns : ∀ column ∈ table.columns, Text.Plain column
  plainFields : ∀ row ∈ table.rows, ∀ field ∈ row, Text.Plain field

theorem plain_toString (n : Nat) : Text.Plain (toString n) := by
  intro c hc
  rw [toList_toString] at hc
  exact Token.isControl_of_isDigit (Nat.isDigit_of_mem_toDigits (by decide) (by decide) hc)

namespace Legible

variable {table changed : Table}

theorem addColumn (h : table.Legible) {name : String} (hname : Text.Plain name)
    (hadd : table.addColumn name = .ok changed) : changed.Legible := by
  have hregular := h.toRegular.addColumn hadd
  obtain ⟨_, -, hchanged⟩ := bind_eq_ok_iff.mp hadd
  cases hchanged
  refine ⟨hregular, ?_, ?_⟩
  · intro column hcolumn
    rcases List.mem_append.mp hcolumn with hold | hnew
    · exact h.plainColumns column hold
    · rwa [List.mem_singleton.mp hnew]
  · intro row hrow field hfield
    obtain ⟨old, hold, rfl⟩ := List.mem_map.mp hrow
    rcases List.mem_append.mp hfield with hmem | hnew
    · exact h.plainFields old hold field hmem
    · rw [List.mem_singleton.mp hnew]
      exact Token.plain_ofList (by simp)

theorem dropColumn (h : table.Legible) {name : String}
    (hdrop : table.dropColumn name = .ok changed) : changed.Legible := by
  have hregular := h.toRegular.dropColumn hdrop
  obtain ⟨index, -, hchanged⟩ := bind_eq_ok_iff.mp hdrop
  cases hchanged
  refine ⟨hregular, ?_, ?_⟩
  · intro column hcolumn
    exact h.plainColumns column (List.mem_of_mem_eraseIdx hcolumn)
  · intro row hrow field hfield
    obtain ⟨old, hold, rfl⟩ := List.mem_map.mp hrow
    exact h.plainFields old hold field (List.mem_of_mem_eraseIdx hfield)

theorem create {name : String} {columns : List String}
    (hcolumns : ∀ column ∈ columns, Text.Plain column)
    (hcreate : Table.create name columns = .ok changed) : changed.Legible := by
  have hid : Text.Plain idColumn := Text.plain_of_all (by decide)
  have hempty : Legible { name, columns := [idColumn], rows := [], nextId := 1 } :=
    ⟨.empty name, by simpa using hid, by simp⟩
  refine of_foldlM_eq_ok Legible ?_ hempty hcreate
  intro state column hcolumn next hstate hadd
  exact hstate.addColumn (hcolumns column hcolumn) hadd

theorem insert (h : table.Legible) {values : List Literal} {id : Nat}
    (hvalues : ∀ value ∈ values, Text.Plain value.field)
    (hinsert : table.insert values = .ok (changed, id)) : changed.Legible := by
  have hregular := h.toRegular.insert hinsert
  obtain ⟨-, -, rfl⟩ := insert_eq_ok_iff.mp hinsert
  refine ⟨hregular, h.plainColumns, ?_⟩
  intro row hrow field hfield
  rcases List.mem_append.mp hrow with hold | hnew
  · exact h.plainFields row hold field hfield
  · rw [List.mem_singleton.mp hnew] at hfield
    rcases List.mem_cons.mp hfield with rfl | hmem
    · exact plain_toString _
    · obtain ⟨value, hvalue, rfl⟩ := List.mem_map.mp hmem
      exact hvalues value hvalue

/-- A field of a row after an assignment was there before, or is one of those assigned. -/
theorem mem_or_mem_of_mem_assign {targets : List (Nat × String)} {row : Row} {field : String}
    (h : field ∈ assign targets row) : field ∈ row ∨ ∃ target ∈ targets, field = target.2 := by
  induction targets generalizing row with
  | nil => exact .inl h
  | cons target rest ih =>
      rcases ih h with hset | ⟨other, hother, rfl⟩
      · rcases List.mem_or_eq_of_mem_set hset with hold | rfl
        · exact .inl hold
        · exact .inr ⟨target, .head _, rfl⟩
      · exact .inr ⟨other, .tail _ hother, rfl⟩

theorem update (h : table.Legible) {assignments : List Assignment} {condition : Condition}
    {count : Nat} (hassignments : ∀ assignment ∈ assignments, Text.Plain assignment.literal.field)
    (hupdate : table.update assignments condition = .ok (changed, count)) :
    changed.Legible := by
  have hregular := h.toRegular.update hupdate
  obtain ⟨targets, htargets, hupdate⟩ := bind_eq_ok_iff.mp hupdate
  obtain ⟨marks, -, hchanged⟩ := bind_eq_ok_iff.mp hupdate
  cases hchanged
  refine ⟨hregular, h.plainColumns, ?_⟩
  intro row hrow field hfield
  obtain ⟨⟨mark, old⟩, hold, rfl⟩ := List.mem_map.mp hrow
  have hfields := h.plainFields old (List.of_mem_zip hold).2
  cases mark with
  | false => exact hfields field hfield
  | true =>
      rcases mem_or_mem_of_mem_assign hfield with hmem | ⟨target, htarget, rfl⟩
      · exact hfields field hmem
      · obtain ⟨assignment, hassignment, hresult⟩ := exists_mem_of_mapM_eq_ok htargets htarget
        obtain ⟨index, -, htarget⟩ := bind_eq_ok_iff.mp hresult
        cases htarget
        exact hassignments assignment hassignment

theorem delete (h : table.Legible) {condition : Condition} {count : Nat}
    (hdelete : table.delete condition = .ok (changed, count)) : changed.Legible := by
  have hregular := h.toRegular.delete hdelete
  obtain ⟨marks, -, hchanged⟩ := bind_eq_ok_iff.mp hdelete
  cases hchanged
  refine ⟨hregular, h.plainColumns, ?_⟩
  intro row hrow
  exact h.plainFields row ((marked_sublist _ _).subset hrow)

/-- A step that a line asks for puts no control character into a table. -/
theorem step (h : table.Legible) {change : Change} (hchange : change.Sound)
    (hstep : table.Step change changed) : changed.Legible := by
  cases hstep with
  | addColumn done => exact h.addColumn hchange.2.plain done
  | dropColumn done => exact h.dropColumn done
  | insert done => exact h.insert hchange.2 done
  | update done => exact h.update hchange.2 done
  | delete done => exact h.delete done

end Legible

end Table

theorem Database.All.legible_of_change {database changed : Database} {change : Change}
    (h : database.All Table.Legible) (hsound : change.Sound)
    (hchange : database.change change = .ok changed) : changed.All Table.Legible := by
  refine h.of_change (fun _ htable => htable) ?_ ?_ hchange
  · rintro name columns table rfl hcreate
    exact .create (fun column hcolumn => (hsound.2 column hcolumn).plain) hcreate
  · intro table next _ htable hstep
    exact htable.step hsound hstep

end Rowbase
