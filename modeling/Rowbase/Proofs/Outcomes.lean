import Mathlib

/-!
# Computations that can fail

A computation in several steps succeeds when every step does, and a computation on every item
of a list gives one result for each item. Two computations run side by side if they fail
together or give related results.
-/

namespace Rowbase

variable {ε α β : Type}

theorem bind_eq_ok_iff {first : Except ε α} {next : α → Except ε β} {result : β} :
    (first >>= next) = .ok result ↔
      ∃ value, first = .ok value ∧ next value = .ok result := by
  cases first with
  | error fault => simp [bind, Except.bind]
  | ok value => simp [bind, Except.bind]

@[simp] theorem throw_eq_error (fault : ε) : (throw fault : Except ε α) = .error fault :=
  rfl

@[simp] theorem error_bind (fault : ε) (next : α → Except ε β) :
    (Except.error fault >>= next) = .error fault :=
  rfl

@[simp] theorem ok_bind (value : α) (next : α → Except ε β) :
    (Except.ok value >>= next) = next value :=
  rfl

theorem map_eq_ok_iff {f : α → β} {first : Except ε α} {result : β} :
    first.map f = .ok result ↔ ∃ value, first = .ok value ∧ f value = result := by
  cases first with
  | error fault => simp [Except.map]
  | ok value => simp [Except.map]

theorem map_eq_error_iff {f : α → β} {first : Except ε α} {fault : ε} :
    first.map f = .error fault ↔ first = .error fault := by
  cases first with
  | error other => simp [Except.map]
  | ok value => simp [Except.map]

/-- Every result of a list of computations belongs to one item, in order. -/
theorem forall₂_of_mapM_eq_ok {action : α → Except ε β} {items : List α} {results : List β}
    (h : items.mapM action = .ok results) :
    List.Forall₂ (fun item result => action item = .ok result) items results := by
  induction items generalizing results with
  | nil =>
      cases h
      exact .nil
  | cons item rest ih =>
      rw [List.mapM_cons, bind_eq_ok_iff] at h
      obtain ⟨result, hitem, h⟩ := h
      obtain ⟨others, hrest, h⟩ := bind_eq_ok_iff.mp h
      cases h
      exact .cons hitem (ih hrest)

/-- What every step of a fold keeps, the whole fold keeps. -/
theorem of_foldlM_eq_ok (holds : α → Prop) {step : α → β → Except ε α} {items : List β}
    {start result : α}
    (hstep : ∀ state, ∀ item ∈ items, ∀ next, holds state → step state item = .ok next →
      holds next)
    (hstart : holds start) (h : items.foldlM step start = .ok result) : holds result := by
  induction items generalizing start with
  | nil =>
      cases h
      exact hstart
  | cons item rest ih =>
      rw [List.foldlM_cons, bind_eq_ok_iff] at h
      obtain ⟨next, hitem, hrest⟩ := h
      have hnext := hstep start item (.head _) next hstart hitem
      exact ih (fun state other hother => hstep state other (.tail _ hother)) hnext hrest

/-- Where every successful step is the same, a successful fold is. -/
theorem foldlM_eq_ok_of_imp {step other : α → β → Except ε α} {items : List β} {start result : α}
    (hstep : ∀ state item next, step state item = .ok next → other state item = .ok next)
    (h : items.foldlM step start = .ok result) : items.foldlM other start = .ok result := by
  induction items generalizing start with
  | nil => exact h
  | cons item rest ih =>
      obtain ⟨next, hitem, hrest⟩ := bind_eq_ok_iff.mp h
      exact bind_eq_ok_iff.mpr ⟨next, hstep start item next hitem, ih hrest⟩

theorem length_eq_of_mapM_eq_ok {action : α → Except ε β} {items : List α} {results : List β}
    (h : items.mapM action = .ok results) : results.length = items.length :=
  (forall₂_of_mapM_eq_ok h).length_eq.symm

theorem mapM_eq_ok_map {action : α → Except ε β} {result : α → β} {items : List α}
    (h : ∀ item ∈ items, action item = .ok (result item)) :
    items.mapM action = .ok (items.map result) := by
  induction items with
  | nil => rfl
  | cons item rest ih =>
      obtain ⟨hitem, hrest⟩ := List.forall_mem_cons.mp h
      rw [List.mapM_cons, hitem, ok_bind, ih hrest]
      rfl

/-- Computations that are the same on every item are the same on the list. -/
theorem mapM_congr {action other : α → Except ε β} {items : List α}
    (h : ∀ item ∈ items, action item = other item) : items.mapM action = items.mapM other := by
  induction items with
  | nil => rfl
  | cons item rest ih =>
      obtain ⟨hitem, hrest⟩ := List.forall_mem_cons.mp h
      rw [List.mapM_cons, List.mapM_cons, hitem, ih hrest]

/-- What is made of each result can be made of all of them at the end. -/
theorem mapM_map_result {γ : Type} (action : α → Except ε β) (f : β → γ) (items : List α) :
    (items.mapM fun item => (action item).map f) = (items.mapM action).map (List.map f) := by
  induction items with
  | nil => rfl
  | cons item rest ih =>
      rw [List.mapM_cons, List.mapM_cons, ih]
      cases action item with
      | error fault => rfl
      | ok result =>
          cases rest.mapM action with
          | error fault => rfl
          | ok others => rfl

theorem exists_mem_of_mapM_eq_ok {action : α → Except ε β} {items : List α}
    {results : List β} (h : items.mapM action = .ok results) {result : β}
    (hresult : result ∈ results) : ∃ item ∈ items, action item = .ok result := by
  have hall := forall₂_of_mapM_eq_ok h
  clear h
  induction hall with
  | nil => simp at hresult
  | cons hitem _ ih =>
      rcases List.mem_cons.mp hresult with rfl | hrest
      · exact ⟨_, .head _, hitem⟩
      · obtain ⟨item, hmem, hitem⟩ := ih hrest
        exact ⟨item, .tail _ hmem, hitem⟩

theorem exists_mem_of_mapM_eq_some {action : α → Option β} {items : List α} {results : List β}
    (h : items.mapM action = some results) {result : β} (hresult : result ∈ results) :
    ∃ item ∈ items, action item = some result := by
  induction items generalizing results with
  | nil =>
      cases h
      simp at hresult
  | cons item rest ih =>
      simp only [List.mapM_cons, Option.bind_eq_bind, Option.bind_eq_some_iff] at h
      obtain ⟨first, hfirst, others, hothers, hresults⟩ := h
      cases hresults
      rcases List.mem_cons.mp hresult with rfl | hrest
      · exact ⟨item, .head _, hfirst⟩
      · obtain ⟨source, hmem, hsource⟩ := ih hothers hrest
        exact ⟨source, .tail _ hmem, hsource⟩

/-- Items that are each read back from what was written of them are all read back. -/
theorem mapM_map_eq_some {read : β → Option α} {write : α → β} {items : List α}
    (h : ∀ item ∈ items, read (write item) = some item) :
    (items.map write).mapM read = some items := by
  induction items with
  | nil => rfl
  | cons item rest ih =>
      obtain ⟨hitem, hrest⟩ := List.forall_mem_cons.mp h
      rw [List.map_cons, List.mapM_cons, hitem, ih hrest]
      rfl

/-- Where every item is read back as itself or not at all, so are all of them. -/
theorem eq_of_mapM_map_eq_some {read : β → Option α} {write : α → β} {items results : List α}
    (h : ∀ item ∈ items, ∀ result, read (write item) = some result → result = item)
    (hread : (items.map write).mapM read = some results) : results = items := by
  induction items generalizing results with
  | nil => simpa using hread.symm
  | cons item rest ih =>
      obtain ⟨hitem, hrest⟩ := List.forall_mem_cons.mp h
      simp only [List.map_cons, List.mapM_cons, Option.bind_eq_bind,
        Option.bind_eq_some_iff] at hread
      obtain ⟨result, hresult, others, hothers, hresults⟩ := hread
      cases hresults
      rw [hitem result hresult, ih hrest hothers]

/-! ## Faults -/

/-- The fault of a computation, if it fails. -/
def fault? : Except ε α → Option ε
  | .error fault => some fault
  | .ok _ => none

@[simp] theorem fault?_error (fault : ε) : fault? (.error fault : Except ε α) = some fault :=
  rfl

@[simp] theorem fault?_ok (value : α) : fault? (.ok value : Except ε α) = none :=
  rfl

/-- Where the fault of the second step does not depend on the result of the first, it counts if
the first step has none. -/
theorem fault?_bind {first : Except ε α} {next : α → Except ε β} (later : Option ε)
    (h : ∀ value, first = .ok value → fault? (next value) = later) :
    fault? (first >>= next) = (fault? first).or later := by
  cases first with
  | error fault => rfl
  | ok value => exact h value rfl

/-- Of a list of computations the first one that fails decides. -/
theorem fault?_mapM (action : α → Except ε β) (items : List α) :
    fault? (items.mapM action) = items.findSome? fun item => fault? (action item) := by
  induction items with
  | nil => rfl
  | cons item rest ih =>
      rw [List.mapM_cons, List.findSome?_cons]
      cases action item with
      | error fault => rfl
      | ok value =>
          rw [ok_bind, fault?_bind none fun _ _ => rfl, ih, Option.or_none]
          rfl

/-! ## Kinds of faults -/

/-- If the computation fails, its fault is of the given kind. -/
def FailsOnly (kind : ε → Prop) (result : Except ε α) : Prop :=
  ∀ fault, result = .error fault → kind fault

variable {kind : ε → Prop}

theorem failsOnly_ok (value : α) : FailsOnly kind (.ok value) := by
  intro fault h
  cases h

theorem failsOnly_error {fault : ε} (h : kind fault) :
    FailsOnly kind (.error fault : Except ε α) := by
  intro other hother
  cases hother
  exact h

theorem FailsOnly.mono {larger : ε → Prop} {result : Except ε α} (h : FailsOnly kind result)
    (hkind : ∀ fault, kind fault → larger fault) : FailsOnly larger result :=
  fun fault hfault => hkind fault (h fault hfault)

theorem FailsOnly.bind {first : Except ε α} {next : α → Except ε β} (h : FailsOnly kind first)
    (hnext : ∀ value, FailsOnly kind (next value)) : FailsOnly kind (first >>= next) := by
  cases first with
  | error fault => exact failsOnly_error (h fault rfl)
  | ok value => exact hnext value

theorem failsOnly_mapM {action : α → Except ε β} {items : List α}
    (h : ∀ item ∈ items, FailsOnly kind (action item)) : FailsOnly kind (items.mapM action) := by
  induction items with
  | nil => exact failsOnly_ok []
  | cons item rest ih =>
      obtain ⟨hitem, hrest⟩ := List.forall_mem_cons.mp h
      rw [List.mapM_cons]
      exact hitem.bind fun _ => (ih hrest).bind fun _ => failsOnly_ok _

theorem failsOnly_foldlM {step : α → β → Except ε α} {items : List β}
    (h : ∀ item ∈ items, ∀ state, FailsOnly kind (step state item)) (start : α) :
    FailsOnly kind (items.foldlM step start) := by
  induction items generalizing start with
  | nil => exact failsOnly_ok start
  | cons item rest ih =>
      obtain ⟨hitem, hrest⟩ := List.forall_mem_cons.mp h
      rw [List.foldlM_cons]
      exact (hitem start).bind fun next => ih hrest next

/-! ## Two computations side by side -/

/-- Both computations fail, with related faults, or both succeed, with related results. -/
inductive Parallel (faults : ε → ε → Prop) (results : α → β → Prop) :
    Except ε α → Except ε β → Prop where
  | error {fault other : ε} (related : faults fault other) :
      Parallel faults results (.error fault) (.error other)
  | ok {value : α} {other : β} (related : results value other) :
      Parallel faults results (.ok value) (.ok other)

namespace Parallel

variable {γ δ : Type} {faults : ε → ε → Prop} {results : α → β → Prop}
variable {first : Except ε α} {second : Except ε β}

/-- What goes on with related results stays side by side. -/
theorem bind {later : γ → δ → Prop} {next : α → Except ε γ} {other : β → Except ε δ}
    (h : Parallel faults results first second)
    (hnext : ∀ a b, results a b → Parallel faults later (next a) (other b)) :
    Parallel faults later (first >>= next) (second >>= other) := by
  cases h with
  | error related => exact .error related
  | ok related => exact hnext _ _ related

theorem map {later : γ → δ → Prop} {f : α → γ} {g : β → δ}
    (h : Parallel faults results first second)
    (hmap : ∀ a b, results a b → later (f a) (g b)) :
    Parallel faults later (first.map f) (second.map g) := by
  cases h with
  | error related => exact .error related
  | ok related => exact .ok (hmap _ _ related)

theorem mono {weaker : ε → ε → Prop} {later : α → β → Prop}
    (h : Parallel faults results first second) (hfaults : ∀ a b, faults a b → weaker a b)
    (hresults : ∀ a b, results a b → later a b) : Parallel weaker later first second := by
  cases h with
  | error related => exact .error (hfaults _ _ related)
  | ok related => exact .ok (hresults _ _ related)

/-- Computations on the items of two lists, one beside the other. -/
theorem mapM {related : γ → δ → Prop} {action : γ → Except ε α} {other : δ → Except ε β}
    {items : List γ} {others : List δ} (h : List.Forall₂ related items others)
    (haction : ∀ a b, related a b → Parallel faults results (action a) (other b)) :
    Parallel faults (List.Forall₂ results) (items.mapM action) (others.mapM other) := by
  induction h with
  | nil => exact .ok .nil
  | cons hitem _ ih =>
      rw [List.mapM_cons, List.mapM_cons]
      refine (haction _ _ hitem).bind fun _ _ hfirst => ?_
      exact ih.bind fun _ _ hrest => .ok (.cons hfirst hrest)

end Parallel

end Rowbase
