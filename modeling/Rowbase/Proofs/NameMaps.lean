import Mathlib
import Rowbase.NameMap

/-!
# Maps and their entries

A map is determined by what is found in it: to insert what is there already changes nothing,
and the entries of a map, inserted one after the other in any order, make the map again.
-/

namespace Rowbase.NameMap

variable {α : Type}

theorem insert_eq_self {map : NameMap α} {key : String} {value : α}
    (h : map.find? key = some value) : map.insert key value = map := by
  apply ext_find?
  intro other
  rw [find?_insert]
  split
  next heq => rw [← heq, h]
  · rfl

/-- Entries that are inserted after others hide those under the same keys. -/
theorem find?_foldl_insert {entries : List (String × α)}
    (hsorted : entries.Pairwise fun left right => left.1 < right.1) (map : NameMap α)
    (key : String) :
    (entries.foldl (fun map entry => map.insert entry.1 entry.2) map).find? key =
      ((lookup key entries).or (map.find? key)) := by
  induction entries generalizing map with
  | nil => simp [lookup]
  | cons entry rest ih =>
      obtain ⟨hfirst, hrest⟩ := List.pairwise_cons.mp hsorted
      rw [List.foldl_cons, ih hrest, find?_insert, lookup]
      split
      next heq =>
        rw [lookup_eq_none_of_lt fun other hother => heq ▸ hfirst other hother]
        rfl
      · rfl

/-- What is found under a key is one of the entries or was there before. -/
theorem mem_of_find?_foldl_insert {entries : List (String × α)} {map : NameMap α} {key : String}
    {value : α}
    (h : (entries.foldl (fun map entry => map.insert entry.1 entry.2) map).find? key =
      some value) : (key, value) ∈ entries ∨ map.find? key = some value := by
  induction entries generalizing map with
  | nil => exact .inr h
  | cons entry rest ih =>
      rcases ih h with hrest | hfound
      · exact .inl (.tail _ hrest)
      · rw [find?_insert] at hfound
        split at hfound
        next heq =>
          cases hfound
          exact .inl (heq ▸ .head _)
        · exact .inr hfound

theorem ofList_entries (map : NameMap α) : ofList map.entries = map := by
  apply ext_find?
  intro key
  rw [ofList, find?_foldl_insert map.sorted, find?_empty, Option.or_none]
  rfl

/-- The map with the same keys and other values. -/
def mapValues {β : Type} (map : NameMap α) (change : α → β) : NameMap β where
  entries := map.entries.map fun entry => (entry.1, change entry.2)
  sorted := List.pairwise_map.mpr map.sorted

theorem find?_mapValues {β : Type} (map : NameMap α) (change : α → β) (key : String) :
    (map.mapValues change).find? key = (map.find? key).map change := by
  unfold mapValues find?
  simp only
  generalize map.entries = entries
  induction entries with
  | nil => rfl
  | cons entry rest ih =>
      simp only [List.map_cons, lookup]
      split
      · rfl
      · exact ih

theorem insert_comm (map : NameMap α) {key other : String} (h : key ≠ other) (value value' : α) :
    (map.insert key value).insert other value' = (map.insert other value').insert key value := by
  apply ext_find?
  intro sought
  simp only [find?_insert]
  split
  next hother =>
    rw [if_neg fun hkey => h (hkey.trans hother.symm)]
  · rfl

/-- The entries make the map again in whatever order they are inserted. -/
theorem ofList_of_perm {map : NameMap α} {entries : List (String × α)}
    (h : entries.Perm map.entries) : ofList entries = map := by
  have hcomm : ∀ first ∈ entries, ∀ second ∈ entries, ∀ start : NameMap α,
      (start.insert first.1 first.2).insert second.1 second.2 =
        (start.insert second.1 second.2).insert first.1 first.2 := by
    rintro ⟨key, value⟩ hfirst ⟨other, value'⟩ hsecond start
    by_cases hkey : key = other
    · subst hkey
      have hvalue := find?_eq_some_iff.mpr (h.subset hfirst)
      rw [find?_eq_some_iff.mpr (h.subset hsecond)] at hvalue
      cases hvalue
      rfl
    · exact insert_comm start hkey value value'
  rw [ofList, h.foldl_eq' hcomm]
  exact ofList_entries map

end Rowbase.NameMap
