import Rowbase.Proofs.CutOffSaves
import Rowbase.Proofs.PlainResponses

/-!
# Documents that are accepted

Loading checks the widths and the identities of rows and the first column, and nothing of what the
other columns are named or of what is in the other fields. A document may therefore hold columns
that no name finds and texts that no response shows as they are. Only documents that commands have
written are free of both.
-/

namespace Rowbase

/-- Texts of which all but the first are changed. -/
def afterFirst (change : String → String) : List String → List String
  | [] => []
  | first :: rest => first :: rest.map change

@[simp] theorem head?_afterFirst (change : String → String) (texts : List String) :
    (afterFirst change texts).head? = texts.head? := by
  cases texts <;> rfl

@[simp] theorem length_afterFirst (change : String → String) (texts : List String) :
    (afterFirst change texts).length = texts.length := by
  cases texts with
  | nil => rfl
  | cons first rest => simp [afterFirst]

namespace Table

variable {table : Table}

/-- The texts of a table but for its name. -/
def texts (table : Table) : List String :=
  table.columns ++ table.rows.flatten

theorem mem_texts {text : String} :
    text ∈ table.texts ↔ ∃ line ∈ table.columns :: table.rows, text ∈ line := by
  simp [texts]

/-- The columns and rows can be shown in lines exactly if no text has a tab or a line end. -/
theorem Rectangular.showable_iff (h : table.Rectangular) :
    (Response.Showable table.columns ∧ ∀ row ∈ table.rows, Response.Showable row) ↔
      ∀ text ∈ table.texts, '\t' ∉ text.toList ∧ '\n' ∉ text.toList := by
  rw [← List.forall_mem_cons]
  constructor
  · intro hshowable text htext
    obtain ⟨line, hline, hmem⟩ := mem_texts.mp htext
    exact ⟨(hshowable line hline).noTab text hmem, (hshowable line hline).noLineEnd text hmem⟩
  · intro htexts line hline
    have hne : line ≠ [] := by
      rcases List.mem_cons.mp hline with rfl | hrow
      · exact h.columns_ne_nil
      · exact h.row_ne_nil hrow
    have htext := fun text hmem => htexts text (mem_texts.mpr ⟨line, hline, hmem⟩)
    exact ⟨hne, fun text hmem => (htext text hmem).1, fun text hmem => (htext text hmem).2⟩

/-- The table with other names for all columns but the first, and with other fields in them. -/
def reworded (table : Table) (column field : String → String) : Table :=
  { table with
    columns := afterFirst column table.columns
    rows := table.rows.map (afterFirst field) }

theorem ascending_map_afterFirst (field : String → String) (width next last : Nat)
    (rows : List Row) :
    ascending width next last (rows.map (afterFirst field)) = ascending width next last rows := by
  induction rows generalizing last with
  | nil => rfl
  | cons row rest ih =>
      simp only [List.map_cons, ascending, head?_afterFirst, length_afterFirst, ih]

/-- The check does not see the names of columns behind the first nor the fields in them. -/
theorem isConsistent_reworded (table : Table) (column field : String → String) :
    (table.reworded column field).isConsistent = table.isConsistent := by
  simp only [isConsistent, reworded, head?_afterFirst, length_afterFirst,
    ascending_map_afterFirst]

theorem Consistent.columnIndex?_idColumn (h : table.Consistent) :
    table.columnIndex? idColumn = some 0 := by
  obtain ⟨column, hfirst, hsame⟩ := h.idFirst
  obtain ⟨rest, hcolumns⟩ := List.head?_eq_some_iff.mp hfirst
  rw [columnIndex?, hcolumns, List.findIdx?_cons, if_pos (decide_eq_true hsame)]

end Table

namespace Database

variable {database : Database}

/-- The database with other names for all columns but the first ones, and with other fields in
them. -/
def reworded (database : Database) (column field : String → String) : Database where
  name := database.name
  tables := database.tables.mapValues fun table => table.reworded column field

theorem isConsistent_reworded (database : Database) (column field : String → String) :
    (database.reworded column field).isConsistent = database.isConsistent := by
  simp only [isConsistent, reworded, NameMap.mapValues, List.all_map]
  congr 1
  funext entry
  exact congrArg (decide (entry.1 = Name.key entry.2.name) && ·)
    (entry.2.isConsistent_reworded column field)

theorem Fits.reworded (h : database.Fits) (column field : String → String) :
    (database.reworded column field).Fits := by
  intro key table htable
  rw [Database.reworded, NameMap.find?_mapValues] at htable
  obtain ⟨before, hbefore, rfl⟩ := Option.map_eq_some_iff.mp htable
  exact h key before hbefore

theorem query_all {name : String} {table : Table} (htable : database.table name = .ok table)
    (hwidth : ∀ row ∈ table.rows, row.length = table.columns.length) :
    database.query (.select { table := name, columns := none, condition := none }) =
      .ok { header := table.columns, rows := table.rows } := by
  simp [Database.query, htable, Table.select_all hwidth]

end Database

namespace Storage

variable {path : String} {bytes : ByteArray} {database : Database}

/-- Exactly the databases that pass the check and have their identities within 64 bits are loaded
from some file. -/
theorem exists_decode_iff :
    (∃ bytes, decode path bytes = .ok database) ↔ database.Fits ∧ database.isConsistent := by
  constructor
  · rintro ⟨bytes, h⟩
    exact fits_of_decode h
  · rintro ⟨hfits, hconsistent⟩
    exact ⟨database.write.toUTF8, by rw [decode_write_eq hfits, if_pos hconsistent]⟩

/-- In a database that is accepted the identities are in order and found. The other columns are
each found exactly if their names differ, and a table is read back from the response that shows it
exactly if no name or field has a tab or a line end. The end mark stands in the response if it
stands in a name or field. None of this is checked: the database with any other names and fields
is accepted as well. -/
theorem accepted_tables (h : decode path bytes = .ok database) :
    (∀ key table, database.tables.find? key = some table →
      key = Name.key table.name ∧ table.Consistent ∧
      table.columnIndex? Table.idColumn = some 0 ∧
      ((∀ (index : Nat) (hlt : index < table.columns.length),
          table.columnIndex? table.columns[index] = some index) ↔
        table.columns.Pairwise fun left right => ¬Name.Same left right) ∧
      ∃ listing,
        database.query (.select { table := table.name, columns := none, condition := none }) =
          .ok listing ∧
        (Response.listing? (Response.ofListing listing) = some listing ↔
          ∀ text ∈ table.texts, '\t' ∉ text.toList ∧ '\n' ∉ text.toList) ∧
        ('\x04' ∈ (Response.ofListing listing).toList ↔
          ∃ text ∈ table.texts, '\x04' ∈ text.toList)) ∧
      ∀ column field, decode path (database.reworded column field).write.toUTF8 =
        .ok (database.reworded column field) := by
  obtain ⟨hfits, hconsistent⟩ := fits_of_decode h
  constructor
  · intro key table htable
    obtain ⟨hkey, htableConsistent⟩ := Database.isConsistent_iff.mp hconsistent key table htable
    have hfound := Database.table_eq_ok_iff.mpr (hkey ▸ htable)
    refine ⟨hkey, htableConsistent, htableConsistent.columnIndex?_idColumn,
      Table.columnIndex?_getElem_iff, _, Database.query_all hfound htableConsistent.width, ?_, ?_⟩
    · rw [Response.listing?_ofListing_iff]
      exact htableConsistent.rectangular.showable_iff
    · rw [Response.mem_ofListing_iff (by decide) (by decide) (by decide)]
      simp only [Table.mem_texts]
      constructor
      · rintro ⟨line, hline, text, htext, hc⟩
        exact ⟨text, ⟨line, hline, htext⟩, hc⟩
      · rintro ⟨text, ⟨line, hline, htext⟩, hc⟩
        exact ⟨line, hline, text, htext, hc⟩
  · intro column field
    rw [decode_write_eq (hfits.reworded column field), Database.isConsistent_reworded,
      if_pos hconsistent]

/-- A database that commands can make. -/
def plainPets : Database where
  name := "d"
  tables := NameMap.empty.insert "t" {
    name := "t", columns := ["id", "a"], rows := [["1", "x"]], nextId := 2 }

/-- The same with a second identity column, and an end mark in a field. -/
def defacedPets : Database where
  name := "d"
  tables := NameMap.empty.insert "t" {
    name := "t", columns := ["id", "ID"], rows := [["1", "\x04"]], nextId := 2 }

theorem accepted_tables_defacedPets :
    decode "d.json" plainPets.write.toUTF8 = .ok plainPets ∧
      decode "d.json" defacedPets.write.toUTF8 = .ok defacedPets ∧
      ∃ table, defacedPets.tables.find? "t" = some table ∧
        (¬∀ (index : Nat) (hlt : index < table.columns.length),
          table.columnIndex? table.columns[index] = some index) ∧
        ∃ listing,
          defacedPets.query (.select { table := "t", columns := none, condition := none }) =
            .ok listing ∧ '\x04' ∈ (Response.ofListing listing).toList := by
  have hfits : plainPets.Fits := (Database.fits_empty "d").insert "t" (by decide)
  have hconsistent : plainPets.isConsistent = true := by cbv
  have hplain : decode "d.json" plainPets.write.toUTF8 = .ok plainPets := by
    rw [decode_write_eq hfits, if_pos hconsistent]
  have hreworded : plainPets.reworded (fun _ => "ID") (fun _ => "\x04") = defacedPets := rfl
  have hdefaced := (accepted_tables hplain).2 (fun _ => "ID") (fun _ => "\x04")
  rw [hreworded] at hdefaced
  have hfound : defacedPets.tables.find? "t" = some {
      name := "t", columns := ["id", "ID"], rows := [["1", "\x04"]], nextId := 2 } := by
    simp [defacedPets]
  obtain ⟨-, -, -, hcolumns, listing, hquery, -, hmark⟩ :=
    (accepted_tables hdefaced).1 "t" _ hfound
  refine ⟨hplain, hdefaced, _, hfound, fun hall => ?_, listing, hquery, hmark.mpr ?_⟩
  · have hsame : Name.key "id" = Name.key "ID" := by cbv
    exact (List.pairwise_cons.mp (hcolumns.mp hall)).1 "ID" (.head _) hsame
  · exact ⟨"\x04", by decide, by decide⟩

end Storage

namespace Service

/-- What is loaded where only commands have written files keeps the rules that commands keep. -/
theorem plain_of_load (mode : Storage.Mode) (path : String) (events : List Event) {name : String}
    {database : Database}
    (h : ((create { mode, folder := .create path }).handleAll events).1.store.storage.load name =
      .ok (some database)) : database.All Table.Plain := by
  have hempty : (Folder.create path).Holds path PlainDocument :=
    ⟨rfl, fun place bytes hfile => by simp [Folder.create] at hfile⟩
  exact Storage.plain_of_load ((plain_create hempty).after events).store.stored h

end Service

end Rowbase
