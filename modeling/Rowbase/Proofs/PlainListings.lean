import Rowbase.Database.Join
import Rowbase.Proofs.PlainTexts
import Rowbase.Proofs.Mentions

/-!
# Plain listings

A database into which commands have put no control character gives listings without control
characters: a query shows only names and fields of its tables, and a join adds only dots,
underscores and numbers.
-/

namespace Rowbase

/-! ## Listings -/

/-- A listing that holds no control character. -/
structure Listing.Plain (listing : Listing) : Prop where
  header : ∀ name ∈ listing.header, Text.Plain name
  rows : ∀ row ∈ listing.rows, ∀ field ∈ row, Text.Plain field

namespace Table

/-- A legible table with a plain name. -/
structure Plain (table : Table) : Prop extends Legible table where
  plainName : Text.Plain table.name

theorem plain_of_mem_project {row : Row} {indices : List Nat} {text : String}
    (h : ∀ field ∈ row, Text.Plain field) (htext : text ∈ project row indices) :
    Text.Plain text := by
  obtain ⟨index, -, rfl⟩ := List.mem_map.mp htext
  cases hfield : row[index]? with
  | none => exact Text.plain_of_all (by decide)
  | some field => exact h field (List.mem_of_getElem? hfield)

theorem Legible.plain_select {table : Table} (h : table.Legible) {columns : Option (List String)}
    {condition : Option Condition} {listing : Listing}
    (hselect : table.select columns condition = .ok listing) : listing.Plain := by
  obtain ⟨indices, -, hselect⟩ := bind_eq_ok_iff.mp hselect
  obtain ⟨marks, -, hlisting⟩ := bind_eq_ok_iff.mp hselect
  cases hlisting
  refine ⟨fun name hname => plain_of_mem_project h.plainColumns hname, ?_⟩
  intro row hrow field hfield
  obtain ⟨whole, hwhole, rfl⟩ := List.mem_map.mp hrow
  have hmem : whole ∈ table.rows := (marked_sublist _ _).subset hwhole
  exact plain_of_mem_project (h.plainFields whole hmem) hfield

end Table

/-! ## Joins -/

theorem plain_numbered {headers : List String} {header : String} (h : Text.Plain header) :
    Text.Plain (numbered headers header) := by
  unfold numbered
  simp only
  cases hfind : List.find? _ _ with
  | none => exact h
  | some candidate =>
      obtain ⟨n, -, rfl⟩ := List.mem_map.mp (List.mem_of_find?_eq_some hfind)
      have hunderscore : Text.Plain "_" := Text.plain_of_all (by decide)
      have hstart := Token.plain_append h hunderscore
      exact Token.plain_append hstart (Table.plain_toString n)

/-- A number behind a header leaves it plain. -/
theorem plain_distinguishAfter {done headers : List String} (hdone : ∀ name ∈ done, Text.Plain name)
    (h : ∀ name ∈ headers, Text.Plain name) :
    ∀ name ∈ distinguishAfter done headers, Text.Plain name := by
  induction headers generalizing done with
  | nil => exact hdone
  | cons header rest ih =>
      obtain ⟨hheader, hrest⟩ := List.forall_mem_cons.mp h
      refine ih (List.forall_mem_append.mpr ⟨hdone, ?_⟩) hrest
      rw [List.forall_mem_singleton]
      split
      · exact plain_numbered hheader
      · exact hheader

namespace Join

theorem plain_headers {side other : Side} (h : side.table.Plain) :
    ∀ name ∈ side.headers other, Text.Plain name := by
  intro name hname
  obtain ⟨kept, hkept, rfl⟩ := List.mem_map.mp hname
  have hplain := Table.plain_of_mem_project h.plainColumns hkept
  split
  · have hpoint : Text.Plain "." := Text.plain_of_all (by decide)
    have hstart := Token.plain_append h.plainName hpoint
    exact Token.plain_append hstart hplain
  · exact hplain

theorem mem_of_mem_pairs {left right : Side} {pair : Row × Row} (h : pair ∈ pairs left right) :
    pair.1 ∈ left.table.rows ∧ pair.2 ∈ right.table.rows := by
  obtain ⟨leftRow, hleft, hpair⟩ := List.mem_flatMap.mp h
  obtain ⟨rightRow, hright, rfl⟩ := List.mem_map.mp hpair
  exact ⟨hleft, (List.mem_filter.mp hright).1⟩

theorem plain_listing {left right : Side} (hleft : left.table.Plain) (hright : right.table.Plain) :
    (listing left right).Plain := by
  have hid : Text.Plain Table.idColumn := Text.plain_of_all (by decide)
  constructor
  · refine plain_distinguishAfter (by simp) ?_
    refine List.forall_mem_append.mpr ⟨List.forall_mem_cons.mpr ⟨hid, plain_headers hleft⟩, ?_⟩
    exact plain_headers hright
  · intro row hrow field hfield
    obtain ⟨⟨⟨leftRow, rightRow⟩, number⟩, hpair, rfl⟩ := List.mem_map.mp hrow
    obtain ⟨hleftRow, hrightRow⟩ := mem_of_mem_pairs (List.fst_mem_of_mem_zipIdx hpair)
    rcases List.mem_append.mp hfield with hfirst | hsecond
    · rcases List.mem_cons.mp hfirst with rfl | hkept
      · exact Table.plain_toString number
      · exact Table.plain_of_mem_project (hleft.plainFields leftRow hleftRow) hkept
    · exact Table.plain_of_mem_project (hright.plainFields rightRow hrightRow) hsecond

end Join

/-! ## Databases -/

namespace Database

variable {database changed : Database}

theorem All.plain_of_change {change : Change} (h : database.All Table.Plain)
    (hsound : change.Sound) (hnames : ∀ name ∈ change.mentioned, Text.Plain name)
    (hchange : database.change change = .ok changed) : changed.All Table.Plain := by
  refine h.of_change (fun _ htable => htable) ?_ ?_ hchange
  · rintro name columns table rfl hcreate
    refine ⟨.create (fun column hcolumn => (hsound.2 column hcolumn).plain) hcreate, ?_⟩
    rw [(Table.name_nextId_of_create hcreate).1]
    exact hnames name (.head _)
  · intro table next _ htable hstep
    refine ⟨htable.toLegible.step hsound hstep, ?_⟩
    rw [hstep.follows.name]
    exact htable.plainName

theorem All.plain_of_table {name : String} {table : Table} (h : database.All Table.Plain)
    (htable : database.table name = .ok table) : table.Plain :=
  (h _ _ (table_eq_ok_iff.mp htable)).2

theorem All.plain_query {query : Query} {listing : Listing} (h : database.All Table.Plain)
    (hquery : database.query query = .ok listing) : listing.Plain := by
  cases query with
  | select selection =>
      obtain ⟨table, htable, hselect⟩ := bind_eq_ok_iff.mp hquery
      exact (h.plain_of_table htable).plain_select hselect
  | join asked =>
      obtain ⟨left, hleft, hquery⟩ := bind_eq_ok_iff.mp hquery
      obtain ⟨right, hright, hquery⟩ := bind_eq_ok_iff.mp hquery
      obtain ⟨leftOn, -, hquery⟩ := bind_eq_ok_iff.mp hquery
      obtain ⟨rightOn, -, hlisting⟩ := bind_eq_ok_iff.mp hquery
      cases hlisting
      exact Join.plain_listing (h.plain_of_table hleft) (h.plain_of_table hright)

end Database

end Rowbase
