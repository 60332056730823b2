import Rowbase.Proofs.DistinctHeaders
import Rowbase.Proofs.OrderlyStores

/-!
# Headers of joins

The headers of a join differ, whatever its tables and columns are called. If the tables have
different names, none has two columns of one name, and no name has a dot, then the headers differ
as they are qualified, and none gets a number. Two tables with dots in their names could still
agree: the column `c` of a table `a.b` is qualified like the column `b.c` of a table `a`. Commands
make no such table, as a name that is read from a line has no dot.
-/

namespace Rowbase

/-! ## Names without dots -/

namespace Table

/-- The columns have different names, and no name has a dot. -/
structure Undotted (table : Table) : Prop where
  distinct : table.columns.Pairwise fun left right => ¬Name.Same left right
  name : '.' ∉ table.name.toList
  columns : ∀ column ∈ table.columns, '.' ∉ column.toList

variable {table changed : Table}

theorem dot_notMem_of_named {name : String} (h : Token.Named name) : '.' ∉ name.toList :=
  fun hdot => absurd (h.wordChars _ hdot) (by decide)

/-- The columns of a new table are those it was asked for, beside the identities. -/
theorem mem_columns_of_create {name : String} {columns : List String}
    (h : create name columns = .ok table) :
    ∀ column ∈ table.columns, column = idColumn ∨ column ∈ columns := by
  refine of_foldlM_eq_ok
    (fun state => ∀ column ∈ state.columns, column = idColumn ∨ column ∈ columns) ?_ (by simp) h
  intro state asked hasked next hstate hadd
  obtain ⟨_, -, hnext⟩ := bind_eq_ok_iff.mp hadd
  cases hnext
  refine List.forall_mem_append.mpr ⟨hstate, ?_⟩
  rw [List.forall_mem_singleton]
  exact .inr hasked

/-- A step leaves no columns but those there were and those it mentions. -/
theorem Step.mem_columns {change : Change} (h : table.Step change changed) :
    ∀ column ∈ changed.columns, column ∈ table.columns ∨ column ∈ change.mentioned := by
  cases h with
  | addColumn done =>
      obtain ⟨_, -, hchanged⟩ := bind_eq_ok_iff.mp done
      cases hchanged
      refine List.forall_mem_append.mpr ⟨fun _ hcolumn => .inl hcolumn, ?_⟩
      rw [List.forall_mem_singleton]
      exact .inr (by simp [Change.mentioned])
  | dropColumn done =>
      obtain ⟨_, -, hchanged⟩ := bind_eq_ok_iff.mp done
      cases hchanged
      exact fun _ hcolumn => .inl (List.mem_of_mem_eraseIdx hcolumn)
  | insert done =>
      obtain ⟨-, -, rfl⟩ := insert_eq_ok_iff.mp done
      exact fun _ hcolumn => .inl hcolumn
  | update done =>
      obtain ⟨_, -, hmarks⟩ := bind_eq_ok_iff.mp done
      obtain ⟨_, -, hchanged⟩ := bind_eq_ok_iff.mp hmarks
      cases hchanged
      exact fun _ hcolumn => .inl hcolumn
  | delete done =>
      obtain ⟨_, -, hchanged⟩ := bind_eq_ok_iff.mp done
      cases hchanged
      exact fun _ hcolumn => .inl hcolumn

end Table

/-- Changes with names that are read from lines keep dots out of all names. -/
theorem Database.lasting_undotted : Database.Lasting fun database =>
    database.All fun table => table.Regular ∧ table.Undotted where
  create name := .create _ name
  change {database changed change} h hnames hchange := by
    refine All.of_change h (fun _ htable => htable) ?_ ?_ hchange
    · rintro name columns table rfl hcreate
      have hregular := Table.Regular.create hcreate
      refine ⟨hregular, hregular.distinct, ?_, fun column hcolumn => ?_⟩
      · rw [(Table.name_nextId_of_create hcreate).1]
        exact Table.dot_notMem_of_named (hnames name (.head _))
      · rcases Table.mem_columns_of_create hcreate column hcolumn with rfl | hasked
        · decide
        · exact Table.dot_notMem_of_named (hnames column (.tail _ hasked))
    · rintro table next - ⟨hregular, htable⟩ hstep
      have hregular := hregular.step hstep
      refine ⟨hregular, hregular.distinct, hstep.follows.name ▸ htable.name, ?_⟩
      intro column hcolumn
      rcases hstep.mem_columns column hcolumn with hold | hmentioned
      · exact htable.columns column hold
      · exact Table.dot_notMem_of_named (hnames column hmentioned)

/-! ## Qualified names -/

namespace Join

variable {name other column : String}

theorem dot_notMem_key (h : '.' ∉ name.toList) : '.' ∉ (Name.key name).toList :=
  Name.not_mem_key (by decide) h

theorem toList_key_qualified (name column : String) :
    (Name.key (name ++ "." ++ column)).toList =
      (Name.key name).toList ++ '.' :: (Name.key column).toList := by
  simp [Name.toList_key]

/-- Qualified names agree in both parts, if the dot between those of the one is its only dot. -/
theorem same_of_same_qualified (hname : '.' ∉ name.toList) (hcolumn : '.' ∉ column.toList)
    {otherColumn : String}
    (h : Name.Same (name ++ "." ++ column) (other ++ "." ++ otherColumn)) :
    Name.Same name other ∧ Name.Same column otherColumn := by
  have hlists := congrArg String.toList h
  rw [toList_key_qualified, toList_key_qualified,
    List.append_cons_inj_of_notMem (dot_notMem_key hname) (dot_notMem_key hcolumn)] at hlists
  exact ⟨String.toList_inj.mp hlists.1, String.toList_inj.mp hlists.2.2⟩

theorem not_same_qualified (hother : '.' ∉ other.toList) :
    ¬Name.Same (name ++ "." ++ column) other := by
  intro h
  apply dot_notMem_key hother
  rw [← congrArg String.toList h, toList_key_qualified]
  simp

/-! ## Headers of two sides -/

namespace Side

variable {side left right : Side}

/-- The columns that are kept are some of those behind the first. -/
theorem sublist_columns {first : String} (h : side.table.columns.head? = some first) :
    (first :: side.keptNames).Sublist side.table.columns := by
  obtain ⟨rest, hcolumns⟩ := List.head?_eq_some_iff.mp h
  have hplaces : (0 :: side.kept).Sublist (List.range side.table.columns.length) := by
    rw [kept, hcolumns, List.length_cons, List.range_succ_eq_map, List.filter_cons_of_neg (by simp)]
    exact List.filter_sublist.cons_cons 0
  have hnames := hplaces.map fun index => side.table.columns[index]?.getD ""
  have hall : (List.range side.table.columns.length).map
      (fun index => side.table.columns[index]?.getD "") = side.table.columns :=
    Table.project_range side.table.columns
  rw [hall, List.map_cons] at hnames
  have hfirst : side.table.columns[0]?.getD "" = first := by rw [hcolumns]; rfl
  rwa [hfirst] at hnames

theorem dot_notMem_keptNames (h : side.table.Consistent) (hundotted : side.table.Undotted) :
    ∀ name ∈ side.keptNames, '.' ∉ name.toList := by
  obtain ⟨first, hfirst, -⟩ := h.idFirst
  intro name hname
  exact hundotted.columns name ((sublist_columns hfirst).subset (.tail _ hname))

/-- The identity column and the columns that are kept have different names. -/
theorem pairwise_keptNames (h : side.table.Consistent) (hundotted : side.table.Undotted) :
    (Table.idColumn :: side.keptNames).Pairwise fun left right => ¬Name.Same left right := by
  obtain ⟨first, hfirst, hid⟩ := h.idFirst
  obtain ⟨hdiffer, hkept⟩ :=
    List.pairwise_cons.mp (hundotted.distinct.sublist (sublist_columns hfirst))
  exact List.pairwise_cons.mpr ⟨fun name hname hsame => hdiffer name hname (hid.trans hsame), hkept⟩

/-- A header is a kept name that the other side does not keep, or a qualified one. -/
theorem mem_headers {header : String} (h : header ∈ left.headers right) :
    (header ∈ left.keptNames ∧ ∀ name ∈ right.keptNames, ¬Name.Same header name) ∨
      ∃ name ∈ left.keptNames, header = left.table.name ++ "." ++ name := by
  obtain ⟨name, hname, rfl⟩ := List.mem_map.mp h
  split
  next => exact .inr ⟨name, hname, rfl⟩
  next hnone =>
    refine .inl ⟨hname, fun other hother hsame => hnone ?_⟩
    exact Headers.any_same_eq_true_iff.mpr ⟨other, hother, hsame⟩

theorem not_same_idColumn_headers (h : left.table.Consistent) (hundotted : left.table.Undotted) :
    ∀ header ∈ left.headers right, ¬Name.Same Table.idColumn header := by
  intro header hheader
  rcases mem_headers hheader with ⟨hkept, -⟩ | ⟨name, -, rfl⟩
  · exact (List.pairwise_cons.mp (pairwise_keptNames h hundotted)).1 header hkept
  · have hid : '.' ∉ Table.idColumn.toList := by decide
    exact fun hsame => not_same_qualified hid hsame.symm

theorem pairwise_headers (h : left.table.Consistent) (hundotted : left.table.Undotted) :
    (left.headers right).Pairwise fun first second => ¬Name.Same first second := by
  have hkept := (List.pairwise_cons.mp (pairwise_keptNames h hundotted)).2
  have hdots := dot_notMem_keptNames h hundotted
  refine List.pairwise_map.mpr (hkept.imp_of_mem fun {first second} hfirst hsecond hdiffer => ?_)
  split
  · split
    · exact fun hsame =>
        hdiffer (same_of_same_qualified hundotted.name (hdots first hfirst) hsame).2
    · exact not_same_qualified (hdots second hsecond)
  · split
    · exact fun hsame => not_same_qualified (hdots first hfirst) hsame.symm
    · exact hdiffer

/-- Headers of two sides differ: by the name of the table if they are both qualified, and by the
dot if one of them is. -/
theorem not_same_headers (hleft : left.table.Consistent) (hright : right.table.Consistent)
    (hleftDots : left.table.Undotted) (hrightDots : right.table.Undotted)
    (hnames : ¬Name.Same left.table.name right.table.name) :
    ∀ first ∈ left.headers right, ∀ second ∈ right.headers left, ¬Name.Same first second := by
  intro first hfirst second hsecond
  rcases mem_headers hfirst with ⟨hfirstKept, hother⟩ | ⟨firstName, hfirstKept, rfl⟩
  · rcases mem_headers hsecond with ⟨hsecondKept, -⟩ | ⟨secondName, -, rfl⟩
    · exact hother second hsecondKept
    · have hdot := dot_notMem_keptNames hleft hleftDots first hfirstKept
      exact fun hsame => not_same_qualified hdot hsame.symm
  · have hfirstDot := dot_notMem_keptNames hleft hleftDots firstName hfirstKept
    rcases mem_headers hsecond with ⟨hsecondKept, -⟩ | ⟨secondName, -, rfl⟩
    · exact not_same_qualified (dot_notMem_keptNames hright hrightDots second hsecondKept)
    · exact fun hsame => hnames (same_of_same_qualified hleftDots.name hfirstDot hsame).1

end Side

/-- No header of two tables of different names gets a number, if none of the tables has two columns
of one name or a dot in a name. -/
theorem header_of_undotted {left right : Side} (hleft : left.table.Consistent)
    (hright : right.table.Consistent) (hleftDots : left.table.Undotted)
    (hrightDots : right.table.Undotted) (hnames : ¬Name.Same left.table.name right.table.name) :
    (listing left right).header =
      Table.idColumn :: left.headers right ++ right.headers left := by
  apply Headers.distinguish_of_pairwise
  refine List.pairwise_append.mpr ⟨List.pairwise_cons.mpr ⟨?_, ?_⟩, ?_, ?_⟩
  · exact Side.not_same_idColumn_headers hleft hleftDots
  · exact Side.pairwise_headers hleft hleftDots
  · exact Side.pairwise_headers hright hrightDots
  · refine List.forall_mem_cons.mpr ⟨Side.not_same_idColumn_headers hright hrightDots, ?_⟩
    exact Side.not_same_headers hleft hright hleftDots hrightDots hnames

end Join

/-! ## Joins in a database -/

namespace Database

/-- The two tables of a join, each with the place of the column on which it is joined. -/
structure Sides (database : Database) (join : Join) (left right : Join.Side) : Prop where
  leftTable : database.table join.leftTable = .ok left.table
  rightTable : database.table join.rightTable = .ok right.table
  leftOn : left.table.resolve join.leftColumn = .ok left.on
  rightOn : right.table.resolve join.rightColumn = .ok right.on

variable {database : Database} {join : Join} {left right : Join.Side} {listing : Listing}

theorem Sides.join_eq (h : database.Sides join left right) :
    database.join join = .ok (Join.listing left right) := by
  simp only [Database.join, h.leftTable, h.rightTable, h.leftOn, h.rightOn, ok_bind]
  rfl

theorem exists_sides_of_join (h : database.join join = .ok listing) :
    ∃ left right, database.Sides join left right ∧ listing = Join.listing left right := by
  obtain ⟨leftTable, hleftTable, h⟩ := bind_eq_ok_iff.mp h
  obtain ⟨rightTable, hrightTable, h⟩ := bind_eq_ok_iff.mp h
  obtain ⟨leftOn, hleftOn, h⟩ := bind_eq_ok_iff.mp h
  obtain ⟨rightOn, hrightOn, hlisting⟩ := bind_eq_ok_iff.mp h
  cases hlisting
  exact ⟨⟨leftTable, leftOn⟩, ⟨rightTable, rightOn⟩,
    ⟨hleftTable, hrightTable, hleftOn, hrightOn⟩, rfl⟩

theorem Sides.consistent (h : database.Sides join left right)
    (hconsistent : database.isConsistent) :
    left.table.Consistent ∧ right.table.Consistent := by
  have hall := isConsistent_iff.mp hconsistent
  exact ⟨(hall _ _ (table_eq_ok_iff.mp h.leftTable)).2,
    (hall _ _ (table_eq_ok_iff.mp h.rightTable)).2⟩

/-- Of any headers those that repeat an earlier one, and only those, get a number, the least that is
free, and then no two name the same. So the headers of a join differ. Those of two tables of
different names get no number, if neither table has two columns of one name or a dot in a name; all
tables that commands make are of this kind. -/
theorem distinct_headers :
    (∀ headers : List String, Headers.Distinguished headers (distinguish headers) ∧
      (∀ place header, headers[place]? = some header →
        ((distinguish headers)[place]? ≠ some header ↔
          Headers.InUse (headers.take place) header)) ∧
      distinguish (distinguish headers) = distinguish headers) ∧
    (∀ (database : Database) (join : Join) (listing : Listing),
      database.join join = .ok listing →
        listing.header.Pairwise fun first second => ¬Name.Same first second) ∧
    (∀ (database : Database) (join : Join) (left right : Join.Side),
      database.isConsistent → database.Sides join left right →
        left.table.Undotted → right.table.Undotted →
          ¬Name.Same left.table.name right.table.name →
            ∃ listing, database.join join = .ok listing ∧
              listing.header = Table.idColumn :: left.headers right ++ right.headers left) ∧
    ∀ (mode : Storage.Mode) (path : String) (history : List Service.Event),
      ((Service.create { mode, folder := .create path }).handleAll history).1.Orderly
        fun database => database.All fun table => table.Regular ∧ table.Undotted := by
  refine ⟨fun headers => ⟨Headers.distinguished headers, fun place header hheader => ?_, ?_⟩,
    fun database join listing hjoin => ?_,
    fun database join left right hconsistent hsides hleftDots hrightDots hnames => ?_,
    Service.orderly_of_history lasting_undotted⟩
  · obtain ⟨given, hgiven, hbecomes⟩ := (Headers.distinguished headers).becomes place header hheader
    rw [hgiven, ne_eq, Option.some.injEq]
    exact hbecomes.ne_iff
  · exact Headers.distinguish_of_pairwise (Headers.distinguished headers).distinct
  · obtain ⟨left, right, -, rfl⟩ := exists_sides_of_join hjoin
    exact (Headers.distinguished _).distinct
  · obtain ⟨hleft, hright⟩ := hsides.consistent hconsistent
    exact ⟨_, hsides.join_eq, Join.header_of_undotted hleft hright hleftDots hrightDots hnames⟩

/-- The people of a zoo. -/
def keepers : Table where
  name := "keepers"
  columns := ["id", "name", "age"]
  rows := [["1", "Ann", "30"], ["3", "Ben", "7"]]
  nextId := 4

/-- The animals of a zoo, each with the name of the one who keeps it. -/
def pets : Table where
  name := "pets"
  columns := ["id", "keeper", "name"]
  rows := [["1", "Ann", "Rex"], ["2", "Ben", "Tom"], ["3", "Ann", "Kit"]]
  nextId := 4

def zoo : Database :=
  ((create "zoo").put "keepers" keepers).put "pets" pets

theorem distinct_headers_zoo :
    zoo.isConsistent ∧
      zoo.Sides ⟨"Keepers", "PETS", "id", "id"⟩ ⟨keepers, 0⟩ ⟨pets, 0⟩ ∧
      keepers.Undotted ∧ pets.Undotted ∧ ¬Name.Same keepers.name pets.name ∧
      (∃ listing, zoo.join ⟨"Keepers", "PETS", "id", "id"⟩ = .ok listing ∧
        listing.header = ["id", "keepers.name", "age", "keeper", "pets.name"] ∧
        listing.header.Pairwise fun first second => ¬Name.Same first second) ∧
      (distinguish ["id", "a", "a_2", "A"])[3]? ≠ some "A" := by
  have hconsistent : zoo.isConsistent = true := by cbv
  have hsides : zoo.Sides ⟨"Keepers", "PETS", "id", "id"⟩ ⟨keepers, 0⟩ ⟨pets, 0⟩ := by
    constructor
    · cbv
    · cbv
    · cbv
    · cbv
  have hkeepersKeys : keepers.columns.map Name.key = ["id", "name", "age"] := by cbv
  have hpetsKeys : pets.columns.map Name.key = ["id", "keeper", "name"] := by cbv
  have hkeepers : keepers.Undotted := by
    refine ⟨.of_map (S := (· ≠ ·)) Name.key (fun _ _ hne => hne) ?_, by decide, by decide⟩
    rw [hkeepersKeys]
    exact (by decide : ["id", "name", "age"].Nodup)
  have hpets : pets.Undotted := by
    refine ⟨.of_map (S := (· ≠ ·)) Name.key (fun _ _ hne => hne) ?_, by decide, by decide⟩
    rw [hpetsKeys]
    exact (by decide : ["id", "keeper", "name"].Nodup)
  have hnames : ¬Name.Same keepers.name pets.name := by cbv
  obtain ⟨hlists, hdistinct, hplain, -⟩ := distinct_headers
  obtain ⟨listing, hjoin, hheader⟩ := hplain zoo _ _ _ hconsistent hsides hkeepers hpets hnames
  refine ⟨hconsistent, hsides, hkeepers, hpets, hnames, ⟨listing, hjoin, ?_,
    hdistinct _ _ listing hjoin⟩, ?_⟩
  · rw [hheader]
    cbv
  · exact ((hlists _).2.1 3 "A" rfl).mpr ⟨"a", by simp, by cbv⟩

end Database

end Rowbase
