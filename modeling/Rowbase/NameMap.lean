/-!
# Maps from names

A map keeps its entries in ascending order of their keys, each key once. Two maps with the same
look-ups are therefore equal (`NameMap.ext_find?`).
-/

namespace Rowbase

/-- A finite map whose keys are texts. -/
structure NameMap (α : Type) where
  entries : List (String × α)
  sorted : entries.Pairwise fun a b => a.1 < b.1
  deriving DecidableEq, Repr

namespace NameMap

variable {α : Type}

/-- The map without entries. -/
def empty : NameMap α where
  entries := []
  sorted := .nil

instance : Inhabited (NameMap α) := ⟨empty⟩

/-- The value of a key in a list of entries. -/
def lookup (key : String) : List (String × α) → Option α
  | [] => none
  | entry :: rest => if entry.1 = key then some entry.2 else lookup key rest

/-- The value of a key. -/
def find? (map : NameMap α) (key : String) : Option α :=
  lookup key map.entries

/-- Whether a key has a value. -/
def contains (map : NameMap α) (key : String) : Bool :=
  (map.find? key).isSome

/-- Gives a key a value at its place among the entries. -/
def place (key : String) (value : α) : List (String × α) → List (String × α)
  | [] => [(key, value)]
  | entry :: rest =>
    if key < entry.1 then (key, value) :: entry :: rest
    else if key = entry.1 then (key, value) :: rest
    else entry :: place key value rest

theorem mem_place {key : String} {value : α} {entries : List (String × α)} {entry : String × α}
    (h : entry ∈ place key value entries) : entry = (key, value) ∨ entry ∈ entries := by
  induction entries with
  | nil => simpa [place] using h
  | cons first rest ih =>
    simp only [place] at h
    split at h
    · simpa using h
    · split at h
      · rcases List.mem_cons.1 h with h | h
        · exact .inl h
        · exact .inr (.tail _ h)
      · rcases List.mem_cons.1 h with h | h
        · exact .inr (h ▸ .head _)
        · exact (ih h).imp id (.tail _)

theorem pairwise_place {entries : List (String × α)} (key : String) (value : α)
    (h : entries.Pairwise fun a b => a.1 < b.1) :
    (place key value entries).Pairwise fun a b => a.1 < b.1 := by
  induction entries with
  | nil => simp [place]
  | cons first rest ih =>
    rw [List.pairwise_cons] at h
    simp only [place]
    split
    next hlt =>
      refine .cons (fun entry hmem => ?_) (.cons h.1 h.2)
      rcases List.mem_cons.1 hmem with rfl | hmem
      · exact hlt
      · exact String.lt_trans hlt (h.1 entry hmem)
    next hge =>
      split
      next heq => exact .cons (fun entry hmem => heq ▸ h.1 entry hmem) h.2
      next hne =>
        refine .cons (fun entry hmem => ?_) (ih h.2)
        rcases mem_place hmem with rfl | hmem
        · exact Std.lt_of_le_of_ne (Std.not_lt.1 hge) (Ne.symm hne)
        · exact h.1 entry hmem

/-- Gives a key a value, in place of the one it may have. -/
def insert (map : NameMap α) (key : String) (value : α) : NameMap α where
  entries := place key value map.entries
  sorted := pairwise_place key value map.sorted

/-- Takes a key out of the map. -/
def erase (map : NameMap α) (key : String) : NameMap α where
  entries := map.entries.filter fun entry => entry.1 ≠ key
  sorted := map.sorted.filter _

/-- The values in the order of their keys. -/
def values (map : NameMap α) : List α :=
  map.entries.map (·.2)

/-- The map of a list of entries, in which the last value of a key counts. -/
def ofList (entries : List (String × α)) : NameMap α :=
  entries.foldl (fun map entry => map.insert entry.1 entry.2) empty

/-! ## Look-ups -/

@[simp] theorem find?_empty (key : String) : (empty : NameMap α).find? key = none := rfl

@[simp] theorem lookup_place (key other : String) (value : α) (entries : List (String × α)) :
    lookup other (place key value entries) =
      if key = other then some value else lookup other entries := by
  induction entries with
  | nil => rfl
  | cons first rest ih =>
    simp only [place]
    split
    · rfl
    · split
      next heq =>
        simp only [lookup, heq]
        split <;> rfl
      next hne =>
        simp only [lookup, ih]
        split
        next hfirst =>
          split
          next hkey => exact absurd (hkey.trans hfirst.symm) hne
          · rfl
        · rfl

@[simp] theorem find?_insert (map : NameMap α) (key other : String) (value : α) :
    (map.insert key value).find? other = if key = other then some value else map.find? other :=
  lookup_place ..

@[simp] theorem find?_erase (map : NameMap α) (key other : String) :
    (map.erase key).find? other = if key = other then none else map.find? other := by
  unfold erase find?
  simp only
  generalize map.entries = entries
  induction entries with
  | nil => simp [lookup]
  | cons first rest ih => grind [lookup]

theorem mem_of_lookup {key : String} {value : α} {entries : List (String × α)}
    (h : lookup key entries = some value) : (key, value) ∈ entries := by
  induction entries with
  | nil => simp [lookup] at h
  | cons first rest ih => grind [lookup]

theorem lookup_of_mem {key : String} {value : α} {entries : List (String × α)}
    (hsorted : entries.Pairwise fun a b => a.1 < b.1) (h : (key, value) ∈ entries) :
    lookup key entries = some value := by
  induction entries with
  | nil => simp at h
  | cons first rest ih =>
    rw [List.pairwise_cons] at hsorted
    rcases List.mem_cons.1 h with rfl | h
    · simp [lookup]
    · have hlt := hsorted.1 _ h
      have hne : first.1 ≠ key := fun heq => String.lt_irrefl key (heq ▸ hlt)
      simp [lookup, hne, ih hsorted.2 h]

/-- An entry is what its key looks up. -/
theorem find?_eq_some_iff {map : NameMap α} {key : String} {value : α} :
    map.find? key = some value ↔ (key, value) ∈ map.entries :=
  ⟨mem_of_lookup, lookup_of_mem map.sorted⟩

/-- A key that stands before all others has no value among them. -/
theorem lookup_eq_none_of_lt {key : String} {entries : List (String × α)}
    (h : ∀ entry ∈ entries, key < entry.1) : lookup key entries = none := by
  induction entries with
  | nil => rfl
  | cons first rest ih =>
    have hne : first.1 ≠ key := fun heq => String.lt_irrefl key (heq ▸ h first (.head _))
    simp [lookup, hne, ih fun entry hmem => h entry (.tail _ hmem)]

theorem eq_of_lookup_eq {left right : List (String × α)}
    (hleft : left.Pairwise fun a b => a.1 < b.1) (hright : right.Pairwise fun a b => a.1 < b.1)
    (h : ∀ key, lookup key left = lookup key right) : left = right := by
  induction left generalizing right with
  | nil =>
    cases right with
    | nil => rfl
    | cons first rest => simpa [lookup] using h first.1
  | cons a left ih =>
    cases right with
    | nil => simpa [lookup] using h a.1
    | cons b right =>
      rw [List.pairwise_cons] at hleft hright
      have hkey : a.1 = b.1 := by
        rcases Std.lt_trichotomy a.1 b.1 with hlt | heq | hgt
        · have hbelow : ∀ entry ∈ b :: right, a.1 < entry.1 := fun entry hmem => by
            rcases List.mem_cons.1 hmem with rfl | hmem
            · exact hlt
            · exact String.lt_trans hlt (hright.1 entry hmem)
          have hnone := lookup_eq_none_of_lt hbelow
          rw [← h a.1] at hnone
          simp [lookup] at hnone
        · exact heq
        · have hbelow : ∀ entry ∈ a :: left, b.1 < entry.1 := fun entry hmem => by
            rcases List.mem_cons.1 hmem with rfl | hmem
            · exact hgt
            · exact String.lt_trans hgt (hleft.1 entry hmem)
          have hnone := lookup_eq_none_of_lt hbelow
          rw [h b.1] at hnone
          simp [lookup] at hnone
      have hvalue : a.2 = b.2 := by simpa [lookup, hkey] using h a.1
      rw [Prod.ext hkey hvalue, ih hleft.2 hright.2 fun key => ?_]
      by_cases hk : a.1 = key
      · rw [lookup_eq_none_of_lt (hk ▸ hleft.1), lookup_eq_none_of_lt (hk ▸ hkey ▸ hright.1)]
      · simpa [lookup, hk, hkey ▸ hk] using h key

/-- Two maps with the same look-ups are equal. -/
theorem ext_find? {left right : NameMap α} (h : ∀ key, left.find? key = right.find? key) :
    left = right := by
  cases left
  cases right
  congr
  exact eq_of_lookup_eq ‹_› ‹_› h

end NameMap

end Rowbase
