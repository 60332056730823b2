import Rowbase.Proofs.DatabaseInvariant
import Rowbase.Proofs.JsonRoundTrip
import Rowbase.Proofs.NameMaps
import Rowbase.Storage

/-!
# Documents read back

The document of a database is read back as the same database, whatever texts its tables hold and
in whatever order it has the tables, as long as every next identity is a number of 64 bits. Such a
document passes for a stored database if the database is consistent.
-/

namespace Rowbase

namespace Table

theorem storable_textsToJson (texts : List String) : (textsToJson texts).Storable := by
  apply Json.Storable.array
  intro item hitem
  obtain ⟨text, -, rfl⟩ := List.mem_map.mp hitem
  exact .text text

theorem storable_toJson (table : Table) : table.toJson.Storable := by
  apply Json.Storable.object
  intro member hmember
  simp only [List.mem_cons, List.not_mem_nil, or_false] at hmember
  rcases hmember with rfl | rfl | rfl | rfl
  · exact .text table.name
  · exact storable_textsToJson table.columns
  · apply Json.Storable.array
    intro item hitem
    obtain ⟨row, -, rfl⟩ := List.mem_map.mp hitem
    exact storable_textsToJson row
  · exact .number table.nextId

theorem list?_textsToJson (texts : List String) :
    (textsToJson texts).list? Json.text? = some texts :=
  mapM_map_eq_some fun _ _ => rfl

theorem list?_rows (rows : List Row) :
    (Json.array (rows.map textsToJson)).list? (Json.list? Json.text?) = some rows :=
  mapM_map_eq_some fun row _ => list?_textsToJson row

theorem nextId?_toString {n : Nat} (h : n < idLimit) :
    nextId? (.number (toString n)) = some n := by
  simp [nextId?, all_isDigit_toDigits, Decimal.ofDigits_toDigits, h]

theorem record?_toJson (table : Table) :
    table.toJson.record? fieldNames =
      some [.text table.name, textsToJson table.columns, .array (table.rows.map textsToJson),
        .number (toString table.nextId)] := by
  simp [toJson, Json.record?, fieldNames, Json.only?]

/-- A table is read back from its value. -/
theorem ofJson?_toJson {table : Table} (h : table.nextId < idLimit) :
    ofJson? table.toJson = some table := by
  rw [ofJson?, record?_toJson]
  simp only [Option.bind_eq_bind, Option.bind_some, Json.text?, list?_textsToJson, list?_rows,
    nextId?_toString h]
  rfl

theorem nextId?_lt {json : Json} {id : Nat} (h : nextId? json = some id) : id < idLimit := by
  unfold nextId? at h
  split at h
  next numeral =>
    simp only [Option.ite_none_right_eq_some, Bool.and_eq_true, decide_eq_true_eq] at h
    obtain ⟨⟨-, hlt⟩, hid⟩ := h
    cases hid
    exact hlt
  · simp at h

/-- The next identity of a table that is read is a number of 64 bits. -/
theorem nextId_lt_of_ofJson? {json : Json} {table : Table} (h : ofJson? json = some table) :
    table.nextId < idLimit := by
  unfold ofJson? at h
  obtain ⟨fields, -, h⟩ := Option.bind_eq_some_iff.mp h
  split at h
  next name columns rows next =>
    obtain ⟨_, -, h⟩ := Option.bind_eq_some_iff.mp h
    obtain ⟨_, -, h⟩ := Option.bind_eq_some_iff.mp h
    obtain ⟨_, -, h⟩ := Option.bind_eq_some_iff.mp h
    obtain ⟨id, hid, h⟩ := Option.bind_eq_some_iff.mp h
    cases h
    exact nextId?_lt hid
  · simp at h

theorem nextId?_toString_of_le {n : Nat} (h : idLimit ≤ n) :
    nextId? (.number (toString n)) = none := by
  simp [nextId?, all_isDigit_toDigits, Decimal.ofDigits_toDigits, Nat.not_lt.mpr h]

/-- Whatever is read from the value of a table is that table. -/
theorem eq_of_ofJson?_toJson {table found : Table} (h : ofJson? table.toJson = some found) :
    found = table := by
  by_cases hfits : table.nextId < idLimit
  · rw [ofJson?_toJson hfits] at h
    exact (Option.some.inj h).symm
  · rw [ofJson?, record?_toJson] at h
    simp only [Option.bind_eq_bind, Option.bind_some, Json.text?, list?_textsToJson, list?_rows,
      nextId?_toString_of_le (Nat.not_lt.mp hfits), Option.bind_none, reduceCtorEq] at h

end Table

namespace Database

/-- Every next identity is a number of 64 bits. -/
def Fits (database : Database) : Prop :=
  ∀ key table, database.tables.find? key = some table → table.nextId < Table.idLimit

theorem fits_empty (name : String) : Fits { name, tables := .empty } := by
  intro key table htable
  rw [NameMap.find?_empty] at htable
  cases htable

theorem Fits.insert {database : Database} (h : database.Fits) (key : String) {table : Table}
    (htable : table.nextId < Table.idLimit) :
    Fits { database with tables := database.tables.insert key table } := by
  intro other found hfound
  rw [NameMap.find?_insert] at hfound
  split at hfound
  · cases hfound
    exact htable
  · exact h other found hfound

theorem WellFormed.fits {database : Database} (h : database.WellFormed) : database.Fits :=
  fun key table htable => (h key table htable).2.nextFits

/-- A database that is read from a document has all its identities within 64 bits. -/
theorem fits_of_read? {document : String} {database : Database}
    (h : read? document = some database) : database.Fits := by
  intro key table htable
  obtain ⟨json, -, h⟩ := Option.bind_eq_some_iff.mp h
  unfold ofJson? at h
  obtain ⟨fields, -, h⟩ := Option.bind_eq_some_iff.mp h
  split at h
  next name tables =>
    obtain ⟨_, -, h⟩ := Option.bind_eq_some_iff.mp h
    obtain ⟨map, hmap, h⟩ := Option.bind_eq_some_iff.mp h
    cases h
    unfold tablesOfJson? at hmap
    split at hmap
    next members =>
      obtain ⟨entries, hentries, rfl⟩ := Option.map_eq_some_iff.mp hmap
      rcases NameMap.mem_of_find?_foldl_insert htable with hmem | hnone
      · obtain ⟨member, -, hmember⟩ := exists_mem_of_mapM_eq_some hentries hmem
        obtain ⟨read, hread, hentry⟩ := Option.map_eq_some_iff.mp hmember
        cases hentry
        exact Table.nextId_lt_of_ofJson? hread
      · simp at hnone
    · simp at hmap
  · simp at h

/-- A database as a value, its tables in the given order. -/
def valueIn (database : Database) (entries : List (String × Table)) : Json :=
  .object [
    ("name", .text database.name),
    ("tables", .object (entries.map fun (key, table) => (key, table.toJson)))]

/-- The document of a database, its tables in the given order. -/
def documentIn (database : Database) (entries : List (String × Table)) : String :=
  (database.valueIn entries).write

theorem write_eq_documentIn (database : Database) :
    database.write = database.documentIn database.tables.entries :=
  rfl

theorem storable_valueIn (database : Database) (entries : List (String × Table)) :
    (database.valueIn entries).Storable := by
  apply Json.Storable.object
  intro member hmember
  simp only [List.mem_cons, List.not_mem_nil, or_false] at hmember
  rcases hmember with rfl | rfl
  · exact .text database.name
  · apply Json.Storable.object
    intro member hmember
    obtain ⟨entry, -, rfl⟩ := List.mem_map.mp hmember
    exact entry.2.storable_toJson

theorem record?_valueIn (database : Database) (entries : List (String × Table)) :
    (database.valueIn entries).record? fieldNames =
      some [.text database.name,
        .object (entries.map fun (key, table) => (key, table.toJson))] := by
  simp [valueIn, Json.record?, fieldNames, Json.only?]

theorem tablesOfJson?_entries {entries : List (String × Table)}
    (h : ∀ entry ∈ entries, entry.2.nextId < Table.idLimit) :
    tablesOfJson? (.object (entries.map fun (key, table) => (key, table.toJson))) =
      some (NameMap.ofList entries) := by
  have hentries : (entries.map fun (key, table) => (key, table.toJson)).mapM
      (fun member => (Table.ofJson? member.2).map fun table => (member.1, table)) =
        some entries := by
    apply mapM_map_eq_some
    rintro ⟨key, table⟩ hentry
    simp [Table.ofJson?_toJson (h _ hentry)]
  rw [tablesOfJson?, hentries, Option.map_some]

theorem read?_documentIn_eq (database : Database) (entries : List (String × Table)) :
    read? (database.documentIn entries) =
      (tablesOfJson? (.object (entries.map fun (key, table) => (key, table.toJson)))).map
        fun tables => { name := database.name, tables } := by
  rw [read?, documentIn, Json.read?_write (database.storable_valueIn entries), Option.bind_some,
    ofJson?, record?_valueIn]
  simp only [Option.bind_eq_bind, Option.bind_some, Json.text?]
  cases tablesOfJson? _ with
  | none => rfl
  | some tables => rfl

/-- A database is read back from its document, in whatever order that has the tables. -/
theorem read?_documentIn {database : Database} (h : database.Fits)
    {entries : List (String × Table)} (horder : entries.Perm database.tables.entries) :
    read? (database.documentIn entries) = some database := by
  have hentries : ∀ entry ∈ entries, entry.2.nextId < Table.idLimit := fun entry hentry =>
    h _ _ (NameMap.find?_eq_some_iff.mpr (horder.subset hentry))
  rw [read?_documentIn_eq, tablesOfJson?_entries hentries, NameMap.ofList_of_perm horder,
    Option.map_some]

/-- Whatever is read from the document of a database is that database. -/
theorem eq_of_read?_write {database found : Database} (h : read? database.write = some found) :
    found = database := by
  rw [write_eq_documentIn, read?_documentIn_eq] at h
  obtain ⟨tables, htables, rfl⟩ := Option.map_eq_some_iff.mp h
  obtain ⟨entries, hentries, rfl⟩ := Option.map_eq_some_iff.mp htables
  have hsame : entries = database.tables.entries := by
    refine eq_of_mapM_map_eq_some ?_ hentries
    rintro ⟨key, table⟩ _ ⟨found, other⟩ hread
    obtain ⟨read, hread, hpair⟩ := Option.map_eq_some_iff.mp hread
    rw [Table.eq_of_ofJson?_toJson hread] at hpair
    exact hpair.symm
  rw [hsame, NameMap.ofList_entries]

end Database

theorem Text.fromUTF8?_toUTF8 (text : String) : String.fromUTF8? text.toUTF8 = some text := by
  have hvalid : text.toUTF8.IsValidUTF8 := text.isValidUTF8
  rw [String.fromUTF8?, dif_pos hvalid]
  rfl

/-- The bytes of a text are read as that text, and no others are. -/
theorem Text.fromUTF8?_eq_some_iff {bytes : ByteArray} {text : String} :
    String.fromUTF8? bytes = some text ↔ text.toUTF8 = bytes := by
  constructor
  · intro h
    unfold String.fromUTF8? at h
    split at h
    · cases h
      rfl
    · cases h
  · rintro rfl
    exact fromUTF8?_toUTF8 text

/-- Whatever the bytes of a database's document are found to hold is that database. -/
theorem Storage.eq_of_decode_write {database found : Database} {path : String}
    (h : decode path database.write.toUTF8 = .ok found) : found = database := by
  rw [decode, Text.fromUTF8?_toUTF8] at h
  simp only at h
  split at h
  · simp at h
  next read hread =>
    split at h
    · cases h
      exact Database.eq_of_read?_write hread
    · simp at h

/-- The bytes of a database's document hold that database, if it is consistent. -/
theorem Storage.decode_documentIn {database : Database} (h : database.Fits)
    {entries : List (String × Table)} (horder : entries.Perm database.tables.entries)
    (path : String) :
    decode path (database.documentIn entries).toUTF8 =
      if database.isConsistent then .ok database else .error (.inconsistent path) := by
  rw [decode, Text.fromUTF8?_toUTF8]
  simp only [Database.read?_documentIn h horder]

theorem Storage.decode_write_eq {database : Database} (h : database.Fits) (path : String) :
    decode path database.write.toUTF8 =
      if database.isConsistent then .ok database else .error (.inconsistent path) :=
  decode_documentIn h (.refl _) path

theorem Storage.decode_write {database : Database} (h : database.WellFormed) (path : String) :
    decode path database.write.toUTF8 = .ok database := by
  rw [decode_write_eq h.fits, if_pos h.isConsistent]

/-- What is read from the bytes of a file passes the check, and fits into a document. -/
theorem Storage.fits_of_decode {database : Database} {path : String} {bytes : ByteArray}
    (h : decode path bytes = .ok database) : database.Fits ∧ database.isConsistent := by
  unfold decode at h
  split at h
  · simp at h
  · split at h
    · simp at h
    next read hread =>
      split at h
      next hconsistent =>
        cases h
        exact ⟨Database.fits_of_read? hread, hconsistent⟩
      · simp at h

end Rowbase
