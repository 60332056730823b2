import Rowbase.Database.Join
import Rowbase.Proofs.LetterCase
import Rowbase.Proofs.TableInvariant

/-!
# Distinct headers

A header that repeats one before it gets the least number with which it differs from all that are
in use, those already numbered and those still to come. There is always one among as many numbers
as there are headers, for two of the headers agree and so leave one number free. A header that is
the first of its name is left alone, and no number makes a later header a repeated one.
-/

namespace Rowbase.Headers

variable {inUse before done rest : List String} {header given : String} {m n : Nat}

/-- A header with a number behind it. -/
def suffixed (header : String) (n : Nat) : String :=
  header ++ "_" ++ toString n

/-- One of the headers names the same. -/
def InUse (headers : List String) (header : String) : Prop :=
  ∃ other ∈ headers, Name.Same header other

/-- The least number from 2 on with which a header differs from all that are in use. -/
structure LeastFree (inUse : List String) (header : String) (n : Nat) : Prop where
  low : 2 ≤ n
  high : n ≤ inUse.length
  free : ¬InUse inUse (suffixed header n)
  least : ∀ m, 2 ≤ m → m < n → InUse inUse (suffixed header m)

/-- What a header becomes, if the given ones come before it and the given ones are in use. -/
inductive Becomes (before inUse : List String) (header : String) : String → Prop where
  | kept (first : ¬InUse before header) : Becomes before inUse header header
  | numbered {n : Nat} (repeats : InUse before header) (least : LeastFree inUse header n) :
      Becomes before inUse header (suffixed header n)

/-- What becomes of headers, one after the other. In use are those that have been dealt with, as
they are then, and those that have not. -/
structure Distinguished (headers result : List String) : Prop where
  length : result.length = headers.length
  becomes : ∀ place header, headers[place]? = some header →
    ∃ given, result[place]? = some given ∧
      Becomes (headers.take place) (result.take place ++ headers.drop place) header given
  distinct : result.Pairwise fun left right => ¬Name.Same left right

/-! ## Numbers that are free -/

theorem any_same_eq_true_iff {headers : List String} :
    headers.any (Name.Same header) = true ↔ InUse headers header := by
  simp [InUse]

theorem map_toLower_toDigits (n : Nat) :
    (Nat.toDigits 10 n).map Char.toLower = Nat.toDigits 10 n := by
  refine (List.map_congr_left (g := id) fun c hc => ?_).trans (List.map_id _)
  rcases Unicode.toLower_eq_or_mem c with heq | hcapital
  · exact heq
  · have hdigit := List.all_eq_true.mp (all_isDigit_toDigits n) c hc
    have hnone : Unicode.capitals.all fun c => !c.isDigit := by decide
    simpa [hdigit] using List.all_eq_true.mp hnone c hcapital

theorem toList_key_suffixed (header : String) (n : Nat) :
    (Name.key (suffixed header n)).toList =
      (Name.key header).toList ++ '_' :: Nat.toDigits 10 n := by
  simp [suffixed, Name.toList_key, map_toLower_toDigits]

/-- Different numbers make a header differ. -/
theorem eq_of_same_suffixed (h : Name.Same (suffixed header m) (suffixed header n)) : m = n := by
  have hlists := congrArg String.toList h
  rw [toList_key_suffixed, toList_key_suffixed, List.append_cancel_left_eq] at hlists
  have hdigits := (List.cons.inj hlists).2
  rw [← Decimal.ofDigits_toDigits m, hdigits, Decimal.ofDigits_toDigits]

theorem not_same_suffixed (header : String) (n : Nat) :
    ¬Name.Same (suffixed header n) header := by
  intro h
  have hlengths := congrArg (fun text => text.toList.length) h
  simp only [toList_key_suffixed, List.length_append, List.length_cons] at hlengths
  omega

/-- If a header is in use twice, the others cannot take all numbers. -/
theorem exists_free (htwice : 2 ≤ inUse.countP (Name.Same header)) :
    ∃ n, 2 ≤ n ∧ n ≤ inUse.length ∧ ¬InUse inUse (suffixed header n) := by
  by_contra hnone
  have htaken : ∀ n, 2 ≤ n → n ≤ inUse.length → InUse inUse (suffixed header n) := by
    intro n hlow hhigh
    by_contra hfree
    exact hnone ⟨n, hlow, hhigh, hfree⟩
  have hothers := inUse.length_eq_countP_add_countP (Name.Same header)
  -- the keys of the numbered headers are as many different keys of the other headers
  have hnodup : ((List.range' 2 (inUse.length - 1)).map fun n =>
      Name.key (suffixed header n)).Nodup :=
    (List.nodup_range' 1).map fun _ _ => eq_of_same_suffixed
  have hsubset : ((List.range' 2 (inUse.length - 1)).map fun n => Name.key (suffixed header n)) ⊆
      (inUse.filter fun other => ¬Name.Same header other).map Name.key := by
    intro key hkey
    obtain ⟨n, hn, rfl⟩ := List.mem_map.mp hkey
    obtain ⟨hlow, hhigh⟩ := List.mem_range'_1.mp hn
    obtain ⟨other, hother, hsame⟩ := htaken n hlow (by omega)
    refine List.mem_map.mpr ⟨other, List.mem_filter.mpr ⟨hother, ?_⟩, hsame.symm⟩
    exact decide_eq_true fun h => not_same_suffixed header n (hsame.trans h.symm)
  have hlength := (List.subperm_of_subset hnodup hsubset).length_le
  rw [List.length_map, List.length_map, List.length_range', ← List.countP_eq_length_filter]
    at hlength
  simp only [decide_eq_true_eq] at hothers
  omega

/-- A header that is in use twice gets the least number that is free. -/
theorem exists_leastFree (htwice : 2 ≤ inUse.countP (Name.Same header)) :
    ∃ n, LeastFree inUse header n ∧ numbered inUse header = suffixed header n := by
  obtain ⟨bound, hlow, hhigh, hfree⟩ := exists_free htwice
  have hnumbered : numbered inUse header =
      (((List.range' 2 inUse.length).find? fun n =>
        !inUse.any (Name.Same (suffixed header n))).map (suffixed header)).getD header := by
    rw [numbered, List.find?_map]
    rfl
  rw [hnumbered]
  cases hfound : (List.range' 2 inUse.length).find? fun n =>
      !inUse.any (Name.Same (suffixed header n)) with
  | none =>
      have htaken := List.find?_eq_none.mp hfound bound (List.mem_range'_1.mpr (by omega))
      rw [Bool.not_eq_true, Bool.not_eq_false', any_same_eq_true_iff] at htaken
      exact absurd htaken hfree
  | some n =>
      obtain ⟨hn, hmem, hleast⟩ := List.find?_range'_eq_some.mp hfound
      simp only [Bool.not_not, any_same_eq_true_iff] at hleast
      rw [Bool.not_eq_true', ← Bool.not_eq_true, any_same_eq_true_iff] at hn
      refine ⟨n, ⟨(List.mem_range'_1.mp hmem).1, ?_, hn, hleast⟩, rfl⟩
      refine Nat.le_trans (Nat.le_of_not_lt fun hlt => ?_) hhigh
      exact hfree (hleast bound hlow hlt)

/-! ## One header after the other -/

theorem inUse_congr {headers : List String} {other : String} (h : Name.Same header other) :
    InUse headers header ↔ InUse headers other :=
  exists_congr fun _ => and_congr_right fun _ => ⟨h.symm.trans, h.trans⟩

theorem inUse_append_singleton_iff {headers : List String} {other : String} :
    InUse (headers ++ [other]) header ↔ InUse headers header ∨ Name.Same header other := by
  simp [InUse, or_and_right, exists_or]

theorem Becomes.ne_iff (h : Becomes before inUse header given) :
    given ≠ header ↔ InUse before header := by
  cases h with
  | kept first => exact iff_of_false (fun hne => hne rfl) first
  | @numbered n repeats least =>
      refine iff_of_true (fun heq => not_same_suffixed header n ?_) repeats
      rw [heq]
      exact .refl header

/-- The state after some headers, which have become `done`, and before the rest. A name is in use
among them if it was among the headers that they were, as far as the rest can tell. -/
structure Halfway (before done rest : List String) : Prop where
  covers : ∀ header, InUse before header → InUse done header
  reflects : ∀ header ∈ rest, InUse done header → InUse before header
  distinct : done.Pairwise fun left right => ¬Name.Same left right

/-- What the next header is replaced with. -/
def next (done : List String) (header : String) (rest : List String) : String :=
  if done.any (Name.Same header) then numbered (done ++ header :: rest) header else header

theorem two_le_countP (h : InUse done header) (rest : List String) :
    2 ≤ (done ++ header :: rest).countP (Name.Same header) := by
  obtain ⟨other, hother, hsame⟩ := h
  have hdone : 0 < done.countP (Name.Same header) :=
    List.countP_pos_iff.mpr ⟨other, hother, decide_eq_true hsame⟩
  have hself : decide (Name.Same header header) = true := decide_eq_true (.refl header)
  rw [List.countP_append, List.countP_cons, if_pos hself]
  omega

namespace Halfway

theorem becomes (h : Halfway before done (header :: rest)) :
    Becomes before (done ++ header :: rest) header (next done header rest) := by
  have hiff : InUse done header ↔ InUse before header :=
    ⟨h.reflects header (.head _), h.covers header⟩
  unfold next
  split
  next hany =>
    have hrepeats := any_same_eq_true_iff.mp hany
    obtain ⟨n, hleast, hnumbered⟩ := exists_leastFree (two_le_countP hrepeats rest)
    rw [hnumbered]
    exact .numbered (hiff.mp hrepeats) hleast
  next hnone =>
    exact .kept fun hbefore => hnone (any_same_eq_true_iff.mpr (hiff.mpr hbefore))

/-- What a header becomes differs from all that have been dealt with. -/
theorem not_same_given (h : Halfway before done (header :: rest))
    (hgiven : Becomes before (done ++ header :: rest) header given) :
    ∀ other ∈ done, ¬Name.Same other given := by
  intro other hother hsame
  cases hgiven with
  | kept first => exact first (h.reflects header (.head _) ⟨other, hother, hsame.symm⟩)
  | numbered _ least => exact least.free ⟨other, List.mem_append_left _ hother, hsame.symm⟩

/-- A header that is kept brings its name into use, and a numbered one brings no name into use that
the rest could have. -/
theorem step (h : Halfway before done (header :: rest))
    (hgiven : Becomes before (done ++ header :: rest) header given) :
    Halfway (before ++ [header]) (done ++ [given]) rest := by
  have hdistinct := h.not_same_given hgiven
  have hrest : ∀ other ∈ rest, InUse done other → InUse before other :=
    fun other hother => h.reflects other (.tail _ hother)
  refine ⟨fun other hother => ?_, fun other hmem hother => ?_,
    List.pairwise_append.mpr ⟨h.distinct, List.pairwise_singleton _ _, by simpa using hdistinct⟩⟩
  · rw [inUse_append_singleton_iff] at hother ⊢
    cases hgiven with
    | kept first => exact hother.imp_left (h.covers other)
    | numbered repeats least =>
        rcases hother with hbefore | hsame
        · exact .inl (h.covers other hbefore)
        · exact .inl ((inUse_congr hsame).mpr (h.covers header repeats))
  · rw [inUse_append_singleton_iff] at hother ⊢
    cases hgiven with
    | kept first => exact hother.imp_left (hrest other hmem)
    | numbered repeats least =>
        rcases hother with hdone | hsame
        · exact .inl (hrest other hmem hdone)
        · exact absurd ⟨other, by simp [hmem], hsame.symm⟩ least.free

/-- From any state on, every header becomes what it should, and no two are left that name the
same. -/
theorem run (h : Halfway before done rest) :
    ∃ later, distinguishAfter done rest = done ++ later ∧ later.length = rest.length ∧
      (done ++ later).Pairwise (fun left right => ¬Name.Same left right) ∧
      ∀ place header, rest[place]? = some header →
        ∃ given, later[place]? = some given ∧
          Becomes (before ++ rest.take place) (done ++ later.take place ++ rest.drop place)
            header given := by
  -- each step moves one header from the rest to those before and to those done
  induction rest generalizing before done with
  | nil => exact ⟨[], by simp [distinguishAfter], rfl, by simpa using h.distinct, by simp⟩
  | cons header rest ih =>
      obtain ⟨later, hlater, hlength, hdistinct, hbecomes⟩ := ih (h.step h.becomes)
      refine ⟨next done header rest :: later, ?_, by simp [hlength], by simpa using hdistinct, ?_⟩
      · exact hlater.trans (List.append_assoc ..)
      · intro place other hplace
        cases place with
        | zero =>
            cases hplace
            exact ⟨_, rfl, by simpa using h.becomes⟩
        | succ place =>
            obtain ⟨given, hgiven, hother⟩ := hbecomes place other hplace
            exact ⟨given, hgiven, by simpa using hother⟩

end Halfway

/-! ## All headers -/

theorem distinguished (headers : List String) : Distinguished headers (distinguish headers) := by
  have hstart : Halfway [] [] headers := ⟨fun _ h => h, fun _ _ h => h, .nil⟩
  obtain ⟨later, hlater, hlength, hdistinct, hbecomes⟩ := hstart.run
  rw [distinguish, hlater]
  exact ⟨hlength, hbecomes, hdistinct⟩

theorem not_inUse_take_of_pairwise {headers : List String}
    (h : headers.Pairwise fun left right => ¬Name.Same left right) {place : Nat}
    (hheader : headers[place]? = some header) : ¬InUse (headers.take place) header := by
  rintro ⟨other, hother, hsame⟩
  obtain ⟨hlt, rfl⟩ := List.getElem?_eq_some_iff.mp hheader
  obtain ⟨before, hbefore, rfl⟩ := List.mem_take_iff_getElem.mp hother
  exact List.pairwise_iff_getElem.mp h before place _ hlt (by omega) hsame.symm

/-- Headers that differ are left alone. -/
theorem distinguish_of_pairwise {headers : List String}
    (h : headers.Pairwise fun left right => ¬Name.Same left right) :
    distinguish headers = headers := by
  have hresult := distinguished headers
  refine List.ext_getElem?_iff.mpr fun place => ?_
  cases hheader : headers[place]? with
  | none =>
      rw [List.getElem?_eq_none_iff] at hheader ⊢
      rwa [hresult.length]
  | some header =>
      obtain ⟨given, hgiven, hbecomes⟩ := hresult.becomes place header hheader
      rw [hgiven]
      by_contra hne
      have hrepeats := hbecomes.ne_iff.mp fun heq => hne (congrArg some heq)
      exact not_inUse_take_of_pairwise h hheader hrepeats

example : distinguish ["id", "a", "a_2", "A"] = ["id", "a", "a_2", "A_3"] := by
  cbv

end Rowbase.Headers
