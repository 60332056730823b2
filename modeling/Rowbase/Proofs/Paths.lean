import Rowbase.Proofs.Outcomes
import Rowbase.Storage

/-!
# Where files are found

A path without a slash is the name of a file in the folder itself. Whatever directories a
path leads through, the file it leads to has the name that the path ends with.
-/

namespace Rowbase

namespace Text

/-- What a text ends with, its last part ends with, unless the separator is in it. -/
theorem exists_getLast?_splitAt {separator : Char} {ending text : List Char}
    (hmem : separator ∉ ending) (h : ending <:+ text) :
    ∃ last, (splitAt separator text).getLast? = some last ∧ ending <:+ last := by
  obtain ⟨before, rfl⟩ := h
  induction before with
  | nil => exact ⟨ending, by simp [splitAt_of_not_mem hmem], List.suffix_rfl⟩
  | cons c before ih =>
      obtain ⟨last, hlast, hsuffix⟩ := ih
      rw [List.cons_append, splitAt]
      cases hparts : splitAt separator (before ++ ending) with
      | nil => exact absurd hparts (splitAt_ne_nil _ _)
      | cons first others =>
          rw [hparts] at hlast
          by_cases hc : c = separator
          · exact ⟨last, by rw [if_pos hc, List.getLast?_cons_cons, hlast], hsuffix⟩
          · rw [if_neg hc]
            cases others with
            | nil =>
                simp only [List.getLast?_singleton, Option.some.injEq] at hlast
                exact ⟨c :: first, by simp, (hlast ▸ hsuffix).trans (List.suffix_cons c first)⟩
            | cons next others =>
                rw [List.getLast?_cons_cons] at hlast ⊢
                exact ⟨last, hlast, hsuffix⟩

end Text

namespace Folder

variable {folder : Folder} {path place : String}

/-- A path to a file in a directory ends with the name of the file. -/
theorem suffix_pathTo (directory : List String) (name : String) :
    name.toList <:+ (pathTo directory name).toList := by
  unfold pathTo
  induction directory with
  | nil => simp [String.intercalate_singleton]
  | cons first rest ih =>
      rw [List.cons_append, String.intercalate_cons_of_ne_nil (by simp), String.toList_append]
      exact ih.trans (List.suffix_append _ _)

/-- Whatever directories a path leads through, the place it leads to ends as the path does. -/
theorem suffix_of_locate {ending : List Char} (hmem : '/' ∉ ending)
    (hpath : ending <:+ path.toList) (h : folder.locate path = .ok place) :
    ending <:+ place.toList := by
  obtain ⟨last, hlast, hsuffix⟩ := Text.exists_getLast?_splitAt hmem hpath
  unfold locate at h
  simp only [List.getLast?_map, hlast, Option.map_some, Option.getD_some] at h
  split at h
  · simp at h
  · obtain ⟨directory, -, h⟩ := bind_eq_ok_iff.mp h
    split at h
    · simp at h
    · cases h
      refine List.IsSuffix.trans ?_ (suffix_pathTo directory _)
      rwa [String.toList_ofList]

/-- A path without a slash or NUL leads to the file of that name, if the name is not too
long. -/
theorem locate_of_plain (hslash : '/' ∉ path.toList) (hnul : '\x00' ∉ path.toList) :
    folder.locate path =
      if nameLimit < path.utf8ByteSize then .error .refused else .ok path := by
  have hhead : path.toList.head? ≠ some '/' := fun h => hslash (List.mem_of_mem_head? h)
  unfold locate
  simp only [Text.splitAt_of_not_mem hslash, if_neg hnul, if_neg hhead]
  simp [pathTo, String.intercalate_singleton, pure, Except.pure]

/-! ## What operations do to the entries -/

theorem read_eq_ok_iff {bytes : ByteArray} :
    folder.read path = .ok bytes ↔
      ∃ place, folder.locate path = .ok place ∧
        folder.entries.find? place = some (.file bytes) := by
  unfold read
  rw [bind_eq_ok_iff]
  refine exists_congr fun place => and_congr_right fun _ => ?_
  split
  next found hfound =>
    rw [hfound]
    constructor
    · intro h
      cases h
      rfl
    · intro h
      cases h
      rfl
  next hdirectory => simp [hdirectory]
  next hnone => simp [hnone]

theorem put_eq_ok_iff {entry : Entry} {changed : Folder} :
    folder.put path entry = .ok changed ↔
      ∃ place, folder.locate path = .ok place ∧ folder.entries.find? place ≠ some .directory ∧
        changed = { folder with entries := folder.entries.insert place entry } := by
  unfold put
  rw [bind_eq_ok_iff]
  refine exists_congr fun place => and_congr_right fun _ => ?_
  split
  next hdirectory => simp [hdirectory]
  next hother =>
    constructor
    · intro h
      cases h
      exact ⟨hother, rfl⟩
    · rintro ⟨-, rfl⟩
      rfl

end Folder

end Rowbase
