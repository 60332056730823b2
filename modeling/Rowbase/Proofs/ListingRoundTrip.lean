import Mathlib
import Rowbase.Response.Read

/-!
# Listings in responses

A listing can be read back from the response that shows it exactly if its texts hold neither tabs
nor line ends, so different listings of such texts have different responses. No response to
anything else shows a listing.
-/

namespace Rowbase

/-- The characters of texts that are joined with a separator. -/
theorem Text.toList_intercalate {separator : String} {c : Char} (h : separator.toList = [c])
    (parts : List String) :
    (String.intercalate separator parts).toList = joinWith c (parts.map String.toList) := by
  induction parts with
  | nil => rfl
  | cons part rest ih =>
      cases rest with
      | nil => simp [joinWith]
      | cons next rest =>
          rw [String.intercalate_cons_of_ne_nil (by simp), String.toList_append,
            String.toList_append, ih, h]
          simp [joinWith]

/-- The characters of joined texts are those of the texts and the separator. -/
theorem Text.mem_joinWith {separator c : Char} {parts : List (List Char)}
    (h : c ∈ joinWith separator parts) : c = separator ∨ ∃ part ∈ parts, c ∈ part := by
  induction parts with
  | nil => simp [joinWith] at h
  | cons part rest ih =>
      cases rest with
      | nil => exact .inr ⟨part, .head _, h⟩
      | cons next rest =>
          simp only [joinWith, List.mem_append, List.mem_cons] at h
          rcases h with hpart | rfl | hrest
          · exact .inr ⟨part, .head _, hpart⟩
          · exact .inl rfl
          · rcases ih hrest with rfl | ⟨other, hother, hc⟩
            · exact .inl rfl
            · exact .inr ⟨other, .tail _ hother, hc⟩

theorem Text.mem_joinWith_of_mem {separator c : Char} {parts : List (List Char)}
    {part : List Char} (hpart : part ∈ parts) (hc : c ∈ part) : c ∈ joinWith separator parts := by
  induction parts with
  | nil => cases hpart
  | cons first rest ih =>
      cases rest with
      | nil =>
          rw [List.mem_singleton] at hpart
          rwa [joinWith, ← hpart]
      | cons next rest =>
          simp only [joinWith, List.mem_append, List.mem_cons]
          rcases List.mem_cons.mp hpart with rfl | hrest
          · exact .inl hc
          · exact .inr (.inr (ih hrest))

/-- The parts of a text hold its characters, but not the separator. -/
theorem Text.of_mem_splitAt {separator c : Char} {text part : List Char}
    (hpart : part ∈ splitAt separator text) (hc : c ∈ part) : c ∈ text ∧ c ≠ separator := by
  induction text generalizing part with
  | nil =>
      rw [splitAt, List.mem_singleton] at hpart
      simp [hpart] at hc
  | cons d rest ih =>
      rw [splitAt] at hpart
      split at hpart
      · rcases List.mem_cons.mp hpart with rfl | hpart
        · cases hc
        · exact ⟨.tail _ (ih hpart hc).1, (ih hpart hc).2⟩
      next hne =>
        cases hparts : splitAt separator rest with
        | nil => exact absurd hparts (splitAt_ne_nil _ _)
        | cons first others =>
            rw [hparts] at hpart ih
            rcases List.mem_cons.mp hpart with rfl | hpart
            · rcases List.mem_cons.mp hc with rfl | hc
              · exact ⟨.head _, hne⟩
              · exact ⟨.tail _ (ih (.head _) hc).1, (ih (.head _) hc).2⟩
            · exact ⟨.tail _ (ih (.tail _ hpart) hc).1, (ih (.tail _ hpart) hc).2⟩

namespace Response

/-- Texts that can stand side by side in one line of a listing. -/
structure Showable (texts : List String) : Prop where
  some : texts ≠ []
  noTab : ∀ text ∈ texts, '\t' ∉ text.toList
  noLineEnd : ∀ text ∈ texts, '\n' ∉ text.toList

variable {texts : List String}

theorem toList_line (texts : List String) :
    (line texts).toList = Text.joinWith '\t' (texts.map String.toList) :=
  Text.toList_intercalate (by decide) texts

theorem fields_line (h : Showable texts) : fields (line texts).toList = texts := by
  have htabs : ∀ part ∈ texts.map String.toList, '\t' ∉ part := by
    intro part hpart
    obtain ⟨text, htext, rfl⟩ := List.mem_map.mp hpart
    exact h.noTab text htext
  rw [fields, toList_line, Text.splitAt_joinWith (by simpa using h.some) htabs, List.map_map]
  simp

theorem not_mem_line (h : Showable texts) : '\n' ∉ (line texts).toList := by
  rw [toList_line]
  intro hmem
  rcases Text.mem_joinWith hmem with htab | ⟨part, hpart, hc⟩
  · exact absurd htab (by decide)
  · obtain ⟨text, htext, rfl⟩ := List.mem_map.mp hpart
    exact h.noLineEnd text htext hc

/-- The lines of a response are the mark of success and those of the header and the rows. -/
theorem splitAt_ofListing {listing : Listing}
    (h : ∀ texts ∈ listing.header :: listing.rows, Showable texts) :
    Text.splitAt '\n' (ofListing listing).toList =
      okMark.toList :: (listing.header :: listing.rows).map (String.toList ∘ line) := by
  have hlines : ∀ part ∈
      (okMark :: line listing.header :: listing.rows.map line).map String.toList,
      '\n' ∉ part := by
    intro part hpart
    obtain ⟨text, htext, rfl⟩ := List.mem_map.mp hpart
    rcases List.mem_cons.mp htext with rfl | htext
    · decide
    · rw [← List.map_cons] at htext
      obtain ⟨texts, htexts, rfl⟩ := List.mem_map.mp htext
      exact not_mem_line (h texts htexts)
  have hend : ("\n").toList = ['\n'] := by decide
  rw [ofListing, Text.toList_intercalate hend, Text.splitAt_joinWith (by simp) hlines]
  simp

/-- The fields of the lines are the texts that the lines are made of. -/
theorem map_fields_line {lists : List (List String)} (h : ∀ texts ∈ lists, Showable texts) :
    (lists.map (String.toList ∘ line)).map fields = lists := by
  rw [List.map_map]
  refine (List.map_congr_left (g := id) ?_).trans (List.map_id _)
  intro texts htexts
  exact fields_line (h texts htexts)

/-- A response shows the listing that it was made of. -/
theorem listing?_ofListing {listing : Listing} (hheader : Showable listing.header)
    (hrows : ∀ row ∈ listing.rows, Showable row) :
    listing? (ofListing listing) = some listing := by
  unfold listing?
  rw [splitAt_ofListing (List.forall_mem_cons.mpr ⟨hheader, hrows⟩), List.map_cons]
  simp only [if_true, Function.comp_apply, fields_line hheader, map_fields_line hrows]

/-- Different listings of texts that can stand side by side have different responses. -/
theorem eq_of_ofListing_eq {first second : Listing}
    (hfirst : ∀ texts ∈ first.header :: first.rows, Showable texts)
    (hsecond : ∀ texts ∈ second.header :: second.rows, Showable texts)
    (h : ofListing first = ofListing second) : first = second := by
  obtain ⟨hheader, hrows⟩ := List.forall_mem_cons.mp hfirst
  obtain ⟨hheader', hrows'⟩ := List.forall_mem_cons.mp hsecond
  have hread := listing?_ofListing hheader hrows
  rw [h, listing?_ofListing hheader' hrows'] at hread
  exact (Option.some.inj hread).symm

/-- What is cut out of one line can stand in one line. -/
theorem showable_fields {line : List Char} (h : '\n' ∉ line) : Showable (fields line) := by
  refine ⟨?_, fun text htext hc => ?_, fun text htext hc => ?_⟩
  · rw [fields, ne_eq, List.map_eq_nil_iff]
    exact Text.splitAt_ne_nil _ _
  · obtain ⟨part, hpart, rfl⟩ := List.mem_map.mp htext
    rw [String.toList_ofList] at hc
    exact (Text.of_mem_splitAt hpart hc).2 rfl
  · obtain ⟨part, hpart, rfl⟩ := List.mem_map.mp htext
    rw [String.toList_ofList] at hc
    exact h (Text.of_mem_splitAt hpart hc).1

theorem showable_of_listing? {response : String} {listing : Listing}
    (h : listing? response = some listing) :
    Showable listing.header ∧ ∀ row ∈ listing.rows, Showable row := by
  unfold listing? at h
  split at h
  next mark header rows hlines =>
    have hline : ∀ line ∈ header :: rows, '\n' ∉ line := by
      intro line hmem hc
      have hpart : line ∈ Text.splitAt '\n' response.toList := hlines ▸ .tail _ hmem
      exact (Text.of_mem_splitAt hpart hc).2 rfl
    obtain ⟨hheader, hrows⟩ := List.forall_mem_cons.mp hline
    split at h
    · cases h
      refine ⟨showable_fields hheader, fun row hrow => ?_⟩
      obtain ⟨line, hmem, rfl⟩ := List.mem_map.mp hrow
      exact showable_fields (hrows line hmem)
    · cases h
  · cases h

/-- A listing can be read back from its response exactly if its texts can stand side by side. -/
theorem listing?_ofListing_iff {listing : Listing} :
    listing? (ofListing listing) = some listing ↔
      Showable listing.header ∧ ∀ row ∈ listing.rows, Showable row :=
  ⟨showable_of_listing?, fun h => listing?_ofListing h.1 h.2⟩

theorem mem_line_iff {texts : List String} {c : Char} (htab : c ≠ '\t') :
    c ∈ (line texts).toList ↔ ∃ text ∈ texts, c ∈ text.toList := by
  rw [toList_line]
  constructor
  · intro hc
    rcases Text.mem_joinWith hc with heq | ⟨part, hpart, hc⟩
    · exact absurd heq htab
    · obtain ⟨text, htext, rfl⟩ := List.mem_map.mp hpart
      exact ⟨text, htext, hc⟩
  · rintro ⟨text, htext, hc⟩
    exact Text.mem_joinWith_of_mem (List.mem_map_of_mem htext) hc

/-- A character that neither the mark nor the spacing has stands in a response exactly if it stands
in a name or a field of the listing. -/
theorem mem_ofListing_iff {listing : Listing} {c : Char} (hmark : c ∉ okMark.toList)
    (htab : c ≠ '\t') (hend : c ≠ '\n') :
    c ∈ (ofListing listing).toList ↔
      ∃ line ∈ listing.header :: listing.rows, ∃ text ∈ line, c ∈ text.toList := by
  have hlines : okMark :: line listing.header :: listing.rows.map line =
      okMark :: (listing.header :: listing.rows).map line := rfl
  have hnewline : ("\n").toList = ['\n'] := by decide
  rw [ofListing, Text.toList_intercalate hnewline, hlines]
  constructor
  · intro hc
    rcases Text.mem_joinWith hc with heq | ⟨part, hpart, hc⟩
    · exact absurd heq hend
    · obtain ⟨text, htext, rfl⟩ := List.mem_map.mp hpart
      rcases List.mem_cons.mp htext with rfl | htext
      · exact absurd hc hmark
      · obtain ⟨texts, htexts, rfl⟩ := List.mem_map.mp htext
        exact ⟨texts, htexts, (mem_line_iff htab).mp hc⟩
  · rintro ⟨texts, htexts, hc⟩
    refine Text.mem_joinWith_of_mem (List.mem_map_of_mem ?_) ((mem_line_iff htab).mpr hc)
    exact .tail _ (List.mem_map_of_mem htexts)

end Response

/-! ## Tables -/

/-- A listing that has columns, and a field for each of them in every row. No name and no field
holds a tab or a line end; any of them can be empty. -/
structure Listing.Tabular (listing : Listing) : Prop where
  columns : listing.header ≠ []
  width : ∀ row ∈ listing.rows, row.length = listing.header.length
  noTab : ∀ texts ∈ listing.header :: listing.rows, ∀ text ∈ texts, '\t' ∉ text.toList
  noLineEnd : ∀ texts ∈ listing.header :: listing.rows, ∀ text ∈ texts, '\n' ∉ text.toList

theorem Listing.Tabular.showable {listing : Listing} (h : listing.Tabular) :
    ∀ texts ∈ listing.header :: listing.rows, Response.Showable texts := by
  intro texts htexts
  refine ⟨?_, h.noTab texts htexts, h.noLineEnd texts htexts⟩
  rcases List.mem_cons.mp htexts with rfl | hrow
  · exact h.columns
  · have hwidth := h.width texts hrow
    have hcolumns := List.length_pos_of_ne_nil h.columns
    exact List.ne_nil_of_length_pos (by omega)

namespace Response

/-- Whatever a listing holds, a line end stands behind the mark of success in its response. -/
theorem exists_toList_ofListing (listing : Listing) :
    ∃ lines, (ofListing listing).toList = okMark.toList ++ '\n' :: lines := by
  have hend : ("\n").toList = ['\n'] := by decide
  rw [ofListing, Text.toList_intercalate hend]
  exact ⟨_, rfl⟩

theorem ofListing_ne_okMark (listing : Listing) : ofListing listing ≠ okMark := by
  obtain ⟨lines, hlines⟩ := exists_toList_ofListing listing
  intro h
  have hmark := congrArg String.toList h
  rw [hlines] at hmark
  simp at hmark

theorem ofListing_ne_ofFailure (listing : Listing) (words : String) :
    ofListing listing ≠ ofFailure words := by
  obtain ⟨lines, hlines⟩ := exists_toList_ofListing listing
  intro h
  have hfailure := congrArg String.toList h
  rw [hlines] at hfailure
  simp [ofFailure, okMark, errorMark] at hfailure

/-- Only a listing is answered by a listing. -/
theorem exists_listing_of_ofOutcome_eq {outcome : Outcome} {listing : Listing}
    (h : ofOutcome outcome = ofListing listing) :
    ∃ other, outcome = .listing other ∧ ofListing other = ofListing listing := by
  cases outcome with
  | listing other => exact ⟨other, rfl, h⟩
  | done => exact absurd h.symm (ofListing_ne_okMark listing)
  | failed error => exact absurd h.symm (ofListing_ne_ofFailure listing _)
  | stopped => exact absurd h.symm (ofListing_ne_ofFailure listing _)

/-- The response to a table has a line for the mark of success, one for the header and one for each
row, and the fields of these lines are the table again. So no other table has this response, and
nor has anything but a listing, whatever the words of a failure are. -/
theorem table_read_back {listing : Listing} (h : listing.Tabular) :
    Text.splitAt '\n' (ofOutcome (.listing listing)).toList =
        okMark.toList :: (listing.header :: listing.rows).map (String.toList ∘ line) ∧
      (Text.splitAt '\n' (ofOutcome (.listing listing)).toList).tail.map fields =
        listing.header :: listing.rows ∧
      (∀ outcome, ofOutcome outcome = ofOutcome (.listing listing) →
        ∃ other, outcome = .listing other ∧ (other.Tabular → other = listing)) ∧
      ∀ words, ofFailure words ≠ ofOutcome (.listing listing) := by
  have hlines := splitAt_ofListing h.showable
  refine ⟨hlines, ?_, ?_, fun words => (ofListing_ne_ofFailure listing words).symm⟩
  · rw [ofOutcome, hlines]
    exact map_fields_line h.showable
  · intro outcome heq
    obtain ⟨other, rfl, hsame⟩ := exists_listing_of_ofOutcome_eq heq
    exact ⟨other, rfl, fun hother => eq_of_ofListing_eq hother.showable h.showable hsame⟩

/-- One column without a name, and two rows without anything in them, all of which the response
keeps apart. -/
theorem table_read_back_of_empty_fields :
    ofOutcome (.listing { header := [""], rows := [[""], [""]] }) = "[OK]\n\n\n" ∧
      (Text.splitAt '\n' "[OK]\n\n\n".toList).tail.map fields = [[""], [""], [""]] ∧
      ofOutcome (.listing { header := [""], rows := [[""]] }) ≠ "[OK]\n\n\n" := by
  have htable : Listing.Tabular { header := [""], rows := [[""], [""]] } :=
    ⟨by simp, by simp, by simp, by simp⟩
  have hshorter : Listing.Tabular { header := [""], rows := [[""]] } :=
    ⟨by simp, by simp, by simp, by simp⟩
  have hresponse :
      ofOutcome (.listing { header := [""], rows := [[""], [""]] }) = "[OK]\n\n\n" := by
    decide +kernel
  obtain ⟨-, hfields, honly, -⟩ := table_read_back htable
  rw [hresponse] at hfields honly
  refine ⟨hresponse, hfields, fun hsame => ?_⟩
  obtain ⟨other, hother, hequal⟩ := honly _ hsame
  cases hother
  exact absurd (hequal hshorter) (by decide)

end Response

end Rowbase
