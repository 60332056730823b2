import Rowbase.Proofs.JoinHeaders

/-!
# Joined rows

A join has one row for every pair of a left row and a right row that agree in the columns it is
made on, by the left row and then by the right one. A row is made of its number and of fields of
the two rows, and the headers are made apart from it. Both follow the same columns: what stands in
a row and what stands over it come from the same place.
-/

namespace Rowbase

namespace Join

/-! ## What a join is made of -/

namespace Side

/-- The places of the columns besides those of the identities and of the join. -/
def others (side : Side) : List Nat :=
  ((List.range side.table.columns.length).erase 0).erase side.on

/-- The field in the column of the join, of the row at a place. -/
def joinField? (side : Side) (place : Nat) : Option String :=
  side.table.rows[place]?.bind (·[side.on]?)

/-- Whether one of the other columns has a name. -/
def hasOther (side : Side) (name : String) : Bool :=
  side.others.any fun index => side.table.columns[index]?.any (Name.Same name)

/-- The name of the column at a place, qualified if one of the other side's columns has it. -/
def heading? (side other : Side) (index : Nat) : Option String :=
  side.table.columns[index]?.map fun name =>
    if other.hasOther name then side.table.name ++ "." ++ name else name

end Side

/-- What a field of a joined row is, and what its header names: the number of the row, or a column
of one of the sides. -/
inductive Source where
  | number
  | left (index : Nat)
  | right (index : Nat)

namespace Source

/-- The field of a joined row, if it has this number and is made of the rows at these places. -/
def field? (left right : Side) (number : Nat) (places : Nat × Nat) : Source → Option String
  | .number => some (toString number)
  | .left index => left.table.rows[places.1]?.bind (·[index]?)
  | .right index => right.table.rows[places.2]?.bind (·[index]?)

/-- The header over the field, without the number that may be behind it. -/
def heading? (left right : Side) : Source → Option String
  | .number => some Table.idColumn
  | .left index => left.heading? right index
  | .right index => right.heading? left index

end Source

/-- The number comes first, then the other columns of the left side and then those of the right
one. -/
def sources (left right : Side) : List Source :=
  .number :: left.others.map .left ++ right.others.map .right

/-- A listing is the join of two sides. The places are those of the pairs of rows. -/
structure Joined (left right : Side) (listing : Listing) (places : List (Nat × Nat)) : Prop where
  ascending : places.Pairwise fun earlier later =>
    earlier.1 < later.1 ∨ earlier.1 = later.1 ∧ earlier.2 < later.2
  mem_iff : ∀ leftPlace rightPlace, (leftPlace, rightPlace) ∈ places ↔
    ∃ text, left.joinField? leftPlace = some text ∧ right.joinField? rightPlace = some text
  rows : listing.rows.map (List.map some) = places.mapIdx fun index pair =>
    (sources left right).map (Source.field? left right (index + 1) pair)
  width : ∀ row ∈ listing.rows, row.length = listing.header.length
  header : ∀ (index : Nat) (source : Source), (sources left right)[index]? = some source →
    ∃ heading header, source.heading? left right = some heading ∧
      listing.header[index]? = some header ∧
      (header = heading ∨ ∃ n, 2 ≤ n ∧ header = Headers.suffixed heading n)
  length : listing.header.length = (sources left right).length
  first : listing.header.head? = some Table.idColumn

variable {side left right : Side}

/-! ## Columns that are kept -/

namespace Side

theorem kept_eq_others (side : Side) : side.kept = side.others := by
  have hnodup := List.nodup_range (n := side.table.columns.length)
  rw [others, (hnodup.erase 0).erase_eq_filter, hnodup.erase_eq_filter, List.filter_filter, kept]
  apply List.filter_congr
  intro index _
  simp [Bool.and_comm, bne, beq_eq_decide]

theorem lt_length_of_mem_others : ∀ index ∈ side.others, index < side.table.columns.length :=
  fun _ hindex => List.mem_range.mp (List.mem_of_mem_erase (List.mem_of_mem_erase hindex))

theorem map_some_keptNames (side : Side) :
    side.keptNames.map some = side.others.map (side.table.columns[·]?) := by
  rw [keptNames, kept_eq_others]
  exact Table.map_some_project side.lt_length_of_mem_others

theorem any_keptNames (side : Side) (name : String) :
    side.keptNames.any (Name.Same name) = side.hasOther name := by
  have hany := congrArg (List.any · (Option.any (Name.Same name))) side.map_some_keptNames
  simpa only [List.any_map, Function.comp_def, Option.any_some, hasOther] using hany

/-- The headers of a side are the headings of its other columns. -/
theorem map_some_headers (side other : Side) :
    (side.headers other).map some = side.others.map (side.heading? other) := by
  have hmap := congrArg (List.map (Option.map fun name =>
    if other.hasOther name then side.table.name ++ "." ++ name else name)) side.map_some_keptNames
  simp only [List.map_map, Function.comp_def, Option.map_some] at hmap
  simp only [headers, List.map_map, Function.comp_def, any_keptNames]
  exact hmap

end Side

/-- Before they are made distinct, the headers are the headings of the sources. -/
theorem map_some_headings (left right : Side) :
    (Table.idColumn :: left.headers right ++ right.headers left).map some =
      (sources left right).map (Source.heading? left right) := by
  simp only [sources, List.map_append, List.map_cons, Side.map_some_headers, List.map_map]
  rfl

/-! ## Pairs of rows -/

/-- The pairs of rows that agree, each row with its place. -/
def placedPairs (left right : Side) : List ((Row × Nat) × (Row × Nat)) :=
  (left.table.rows.zipIdx.product right.table.rows.zipIdx).filter fun pair =>
    pair.2.1[right.on]? = pair.1.1[left.on]?

theorem pairs_eq_map (left right : Side) :
    pairs left right = (placedPairs left right).map (Prod.map Prod.fst Prod.fst) := by
  conv_lhs =>
    rw [pairs, ← List.zipIdx_map_fst 0 left.table.rows, ← List.zipIdx_map_fst 0 right.table.rows]
  simp only [placedPairs, List.product, List.flatMap_map, List.filter_map,
    List.filter_flatMap, List.map_flatMap, List.map_map, Function.comp_def, Prod.map]

theorem mem_placedPairs_iff {leftRow rightRow : Row} {leftPlace rightPlace : Nat} :
    ((leftRow, leftPlace), (rightRow, rightPlace)) ∈ placedPairs left right ↔
      left.table.rows[leftPlace]? = some leftRow ∧
        right.table.rows[rightPlace]? = some rightRow ∧
          rightRow[right.on]? = leftRow[left.on]? := by
  rw [placedPairs, List.mem_filter, List.pair_mem_product, List.mem_zipIdx_iff_getElem?,
    List.mem_zipIdx_iff_getElem?, decide_eq_true_eq, and_assoc]

theorem pairwise_zipIdx (rows : List Row) :
    rows.zipIdx.Pairwise fun earlier later => earlier.2 < later.2 := by
  apply List.Pairwise.of_map (S := (· < ·)) Prod.snd fun _ _ h => h
  rw [List.zipIdx_map_snd]
  exact List.pairwise_lt_range' 1

/-- The pairs come by the place of the left row, and then by that of the right row. -/
theorem pairwise_placedPairs (left right : Side) :
    (placedPairs left right).Pairwise fun earlier later =>
      earlier.1.2 < later.1.2 ∨ earlier.1.2 = later.1.2 ∧ earlier.2.2 < later.2.2 := by
  apply List.Pairwise.filter
  refine List.pairwise_flatMap.mpr ⟨fun leftRow _ => ?_, ?_⟩
  · rw [List.pairwise_map]
    exact (pairwise_zipIdx right.table.rows).imp fun hlt => .inr ⟨rfl, hlt⟩
  · refine (pairwise_zipIdx left.table.rows).imp fun hlt earlier hearlier later hlater => ?_
    obtain ⟨_, -, rfl⟩ := List.mem_map.mp hearlier
    obtain ⟨_, -, rfl⟩ := List.mem_map.mp hlater
    exact .inl hlt

/-- The places of the rows of each pair. -/
def places (left right : Side) : List (Nat × Nat) :=
  (placedPairs left right).map (Prod.map Prod.snd Prod.snd)

theorem mem_places_iff {leftPlace rightPlace : Nat} (hleft : left.table.Rectangular)
    (hon : left.on < left.table.columns.length) :
    (leftPlace, rightPlace) ∈ places left right ↔
      ∃ text, left.joinField? leftPlace = some text ∧ right.joinField? rightPlace = some text := by
  constructor
  · intro hmem
    obtain ⟨⟨⟨leftRow, _⟩, rightRow, _⟩, hpair, hplaces⟩ := List.mem_map.mp hmem
    obtain ⟨rfl, rfl⟩ := Prod.mk.inj hplaces
    obtain ⟨hleftRow, hrightRow, hagree⟩ := mem_placedPairs_iff.mp hpair
    -- two fields that are both missing would agree as well, but the left one is there
    have hwidth := hleft.width leftRow (List.mem_of_getElem? hleftRow)
    obtain ⟨text, htext⟩ : ∃ text, leftRow[left.on]? = some text :=
      ⟨_, List.getElem?_eq_getElem (hwidth ▸ hon)⟩
    exact ⟨text, Option.bind_eq_some_iff.mpr ⟨leftRow, hleftRow, htext⟩,
      Option.bind_eq_some_iff.mpr ⟨rightRow, hrightRow, hagree.trans htext⟩⟩
  · rintro ⟨text, hleftText, hrightText⟩
    obtain ⟨leftRow, hleftRow, hleftText⟩ := Option.bind_eq_some_iff.mp hleftText
    obtain ⟨rightRow, hrightRow, hrightText⟩ := Option.bind_eq_some_iff.mp hrightText
    refine List.mem_map.mpr ⟨((leftRow, leftPlace), (rightRow, rightPlace)), ?_, rfl⟩
    exact mem_placedPairs_iff.mpr ⟨hleftRow, hrightRow, hrightText.trans hleftText.symm⟩

/-! ## One row and its headers -/

/-- A joined row has the field of every source. -/
theorem map_some_row {leftRow rightRow : Row} {leftPlace rightPlace : Nat}
    (hleft : left.table.Rectangular) (hright : right.table.Rectangular)
    (hleftRow : left.table.rows[leftPlace]? = some leftRow)
    (hrightRow : right.table.rows[rightPlace]? = some rightRow) (number : Nat) :
    (toString number :: Table.project leftRow left.kept ++
        Table.project rightRow right.kept).map some =
      (sources left right).map (Source.field? left right number (leftPlace, rightPlace)) := by
  have hproject {side : Side} (hside : side.table.Rectangular) {row : Row} {place : Nat}
      (hrow : side.table.rows[place]? = some row) :
      (Table.project row side.kept).map some = side.others.map (row[·]?) := by
    rw [Side.kept_eq_others]
    refine Table.map_some_project fun index hindex => ?_
    rw [hside.width row (List.mem_of_getElem? hrow)]
    exact side.lt_length_of_mem_others index hindex
  simp only [List.map_append, List.map_cons, hproject hleft hleftRow, hproject hright hrightRow,
    sources, List.map_map, Function.comp_def, Source.field?, hleftRow, hrightRow, Option.bind_some]

theorem map_some_rows (hleft : left.table.Rectangular) (hright : right.table.Rectangular) :
    (listing left right).rows.map (List.map some) =
      (places left right).mapIdx fun index pair =>
        (sources left right).map (Source.field? left right (index + 1) pair) := by
  apply List.ext_getElem?
  intro index
  rw [listing, List.getElem?_map, List.getElem?_map, List.getElem?_zipIdx, pairs_eq_map,
    List.getElem?_map, List.getElem?_mapIdx, places, List.getElem?_map]
  cases hpair : (placedPairs left right)[index]? with
  | none => rfl
  | some pair =>
      obtain ⟨⟨leftRow, leftPlace⟩, rightRow, rightPlace⟩ := pair
      obtain ⟨hleftRow, hrightRow, -⟩ := mem_placedPairs_iff.mp (List.mem_of_getElem? hpair)
      have hrow := map_some_row hleft hright hleftRow hrightRow (1 + index)
      rw [Nat.add_comm index 1]
      exact congrArg some hrow

/-- What is over a field is its heading, with a number behind it or not. -/
theorem header_of_source {index : Nat} {source : Source}
    (h : (sources left right)[index]? = some source) :
    ∃ heading header, source.heading? left right = some heading ∧
      (listing left right).header[index]? = some header ∧
      (header = heading ∨ ∃ n, 2 ≤ n ∧ header = Headers.suffixed heading n) := by
  have hheadings := congrArg (·[index]?) (map_some_headings left right)
  simp only [List.getElem?_map, h, Option.map_some] at hheadings
  obtain ⟨heading, hheading, hsource⟩ := Option.map_eq_some_iff.mp hheadings
  obtain ⟨header, hheader, hbecomes⟩ :=
    (Headers.distinguished _).becomes index heading hheading
  refine ⟨heading, header, hsource.symm, hheader, ?_⟩
  cases hbecomes with
  | kept => exact .inl rfl
  | numbered _ least => exact .inr ⟨_, least.low, rfl⟩

/-- Nothing comes before the first header, so it is not numbered. -/
theorem head?_header (left right : Side) :
    (listing left right).header.head? = some Table.idColumn := by
  obtain ⟨header, hheader, hbecomes⟩ := (Headers.distinguished
    (Table.idColumn :: left.headers right ++ right.headers left)).becomes 0 Table.idColumn rfl
  rw [List.head?_eq_getElem?]
  cases hbecomes with
  | kept => exact hheader
  | numbered repeats => simp [Headers.InUse] at repeats

theorem length_header (left right : Side) :
    (listing left right).header.length = (sources left right).length := by
  have hlength := congrArg List.length (map_some_headings left right)
  rw [List.length_map, List.length_map] at hlength
  exact (Headers.distinguished _).length.trans hlength

theorem joined (hleft : left.table.Rectangular) (hright : right.table.Rectangular)
    (hon : left.on < left.table.columns.length) :
    Joined left right (listing left right) (places left right) where
  ascending := List.pairwise_map.mpr (pairwise_placedPairs left right)
  mem_iff _ _ := mem_places_iff hleft hon
  rows := map_some_rows hleft hright
  width row hrow := by
    have hmem := List.mem_map_of_mem (f := List.map some) hrow
    rw [map_some_rows hleft hright] at hmem
    obtain ⟨index, hlt, hfields⟩ := List.mem_mapIdx.mp hmem
    have hlength := congrArg List.length hfields
    rw [List.length_map, List.length_map] at hlength
    rw [length_header, hlength]
  header _ _ := header_of_source
  length := length_header left right
  first := head?_header left right

end Join

/-! ## All outcomes -/

namespace Database

/-- What comes of a join: a fault for the first of the two tables and then of the two columns that
there is not, or the listing. -/
inductive JoinOutcome (database : Database) (join : Join) : Except Error Listing → Prop where
  | noLeftTable
      (missing : ∀ key table, database.tables.find? key = some table →
        ¬Name.Same join.leftTable table.name) :
      JoinOutcome database join (.error (.unknownTable join.leftTable))
  | noRightTable {left : Table} (leftTable : database.table join.leftTable = .ok left)
      (missing : ∀ key table, database.tables.find? key = some table →
        ¬Name.Same join.rightTable table.name) :
      JoinOutcome database join (.error (.unknownTable join.rightTable))
  | noLeftColumn {left right : Table} (leftTable : database.table join.leftTable = .ok left)
      (rightTable : database.table join.rightTable = .ok right)
      (missing : ∀ column ∈ left.columns, ¬Name.Same column join.leftColumn) :
      JoinOutcome database join (.error (.unknownColumn join.leftColumn))
  | noRightColumn {left right : Table} {leftOn : Nat}
      (leftTable : database.table join.leftTable = .ok left)
      (rightTable : database.table join.rightTable = .ok right)
      (leftColumn : left.resolve join.leftColumn = .ok leftOn)
      (missing : ∀ column ∈ right.columns, ¬Name.Same column join.rightColumn) :
      JoinOutcome database join (.error (.unknownColumn join.rightColumn))
  | joined {left right : Join.Side} {listing : Listing} {places : List (Nat × Nat)}
      (sides : database.Sides join left right)
      (joined : Join.Joined left right listing places) :
      JoinOutcome database join (.ok listing)

variable {database : Database} {property : Table → Prop} {name : String} {fault : Error}

/-- A table that is not found does not exist under any key. -/
theorem All.missing_of_table_eq_error (h : database.All property)
    (htable : database.table name = .error fault) :
    fault = .unknownTable name ∧ ∀ key table, database.tables.find? key = some table →
      ¬Name.Same name table.name := by
  unfold Database.table at htable
  split at htable
  · simp at htable
  next hnone =>
    cases htable
    refine ⟨rfl, fun key table hfound hsame => ?_⟩
    rw [(h key table hfound).1, ← hsame, hnone] at hfound
    cases hfound

/-- A join of tables and columns that there are gives one row for every pair of rows that agree, and
any other join names what there is not. -/
theorem join_outcome (h : database.isConsistent) (join : Join) :
    JoinOutcome database join (database.join join) := by
  have hall := isConsistent_iff.mp h
  cases hleft : database.table join.leftTable with
  | error fault =>
      obtain ⟨rfl, hmissing⟩ := hall.missing_of_table_eq_error hleft
      rw [Database.join, hleft]
      exact .noLeftTable hmissing
  | ok left =>
  cases hright : database.table join.rightTable with
  | error fault =>
      obtain ⟨rfl, hmissing⟩ := hall.missing_of_table_eq_error hright
      rw [Database.join, hleft, ok_bind, hright]
      exact .noRightTable hleft hmissing
  | ok right =>
  cases hleftOn : left.resolve join.leftColumn with
  | error fault =>
      obtain ⟨rfl, hmissing⟩ := Table.missing_of_resolve_eq_error hleftOn
      rw [Database.join, hleft, ok_bind, hright, ok_bind, hleftOn]
      exact .noLeftColumn hleft hright hmissing
  | ok leftOn =>
  cases hrightOn : right.resolve join.rightColumn with
  | error fault =>
      obtain ⟨rfl, hmissing⟩ := Table.missing_of_resolve_eq_error hrightOn
      rw [Database.join, hleft, ok_bind, hright, ok_bind, hleftOn, ok_bind, hrightOn]
      exact .noRightColumn hleft hright hleftOn hmissing
  | ok rightOn =>
      have hsides : database.Sides join ⟨left, leftOn⟩ ⟨right, rightOn⟩ :=
        ⟨hleft, hright, hleftOn, hrightOn⟩
      obtain ⟨hleftTable, hrightTable⟩ := hsides.consistent h
      rw [hsides.join_eq]
      exact .joined hsides (Join.joined hleftTable.rectangular hrightTable.rectangular
        (Table.lt_of_resolve_eq_ok hleftOn))

theorem join_outcome_zoo :
    zoo.isConsistent ∧
      zoo.join ⟨"keepers", "pets", "name", "keeper"⟩ =
        .ok { header := ["id", "age", "name"],
              rows := [["1", "30", "Rex"], ["2", "30", "Kit"], ["3", "7", "Tom"]] } ∧
      JoinOutcome zoo ⟨"keepers", "pets", "name", "keeper"⟩
        (.ok { header := ["id", "age", "name"],
               rows := [["1", "30", "Rex"], ["2", "30", "Kit"], ["3", "7", "Tom"]] }) := by
  have hconsistent : zoo.isConsistent = true := by cbv
  have hjoin : zoo.join ⟨"keepers", "pets", "name", "keeper"⟩ =
      .ok { header := ["id", "age", "name"],
            rows := [["1", "30", "Rex"], ["2", "30", "Kit"], ["3", "7", "Tom"]] } := by
    cbv
  exact ⟨hconsistent, hjoin, hjoin ▸ join_outcome hconsistent _⟩

end Database

end Rowbase
