import Rowbase.Proofs.Lexemes

/-!
# Where tokens end

A token that ends with the line is the same token where a blank follows, a parenthesis or another
character that no token goes on with. The tokens of a line can therefore be read part by part, if
no token goes on from one part into the next.
-/

namespace Rowbase

namespace Token

open Unicode

/-- No token goes on with what stands next. -/
structure Bounded (after : List Char) : Prop where
  noWord : Stops isWordChar after
  noPoint : after.head? ≠ some '.'
  noEqual : after.head? ≠ some '='

variable {p : Char → Bool} {after line rest left : List Char} {token : Token}

theorem bounded_cons {c : Char} (hword : isWordChar c = false) (hpoint : c ≠ '.')
    (hequal : c ≠ '=') (rest : List Char) : Bounded (c :: rest) := by
  refine ⟨?_, by simpa using hpoint, by simpa using hequal⟩
  intro d hd
  cases hd
  exact hword

theorem Bounded.stops (h : Bounded after) (hp : ∀ c, p c → isWordChar c) : Stops p after := by
  intro c hc
  rw [← Bool.not_eq_true]
  intro hpc
  exact absurd (h.noWord c hc) (by simp [hp c hpc])

theorem Bounded.stops_isDigit (h : Bounded after) : Stops Char.isDigit after :=
  h.stops fun _ => isWordChar_of_isDigit

/-! ## Runs with something behind them -/

theorem Stops.takeWhile_extend (h : Stops p after) (line : List Char) :
    (line ++ after).takeWhile p = line.takeWhile p := by
  induction line with
  | nil => simp [h.takeWhile_eq_nil]
  | cons c line ih => simp [List.takeWhile_cons, ih]

theorem Stops.dropWhile_extend (h : Stops p after) (line : List Char) :
    (line ++ after).dropWhile p = line.dropWhile p ++ after := by
  induction line with
  | nil => simp [h.dropWhile_eq_self]
  | cons c line ih =>
      simp only [List.cons_append, List.dropWhile_cons, ih]
      split
      · rfl
      · rfl

theorem Stops.any_extend (h : Stops p after) (line : List Char) :
    (line ++ after).head?.any p = line.head?.any p := by
  cases line with
  | nil =>
      cases after with
      | nil => rfl
      | cons c after => simp [h c rfl]
  | cons c line => rfl

/-! ## Tokens with something behind them -/

theorem orEqual_extend (hafter : Bounded after) (short long : Symbol) (rest : List Char) :
    orEqual short long (rest ++ after) =
      ((orEqual short long rest).1, (orEqual short long rest).2 ++ after) := by
  cases rest with
  | nil =>
      unfold orEqual
      split
      next hequal =>
        rw [List.nil_append] at hequal
        exact absurd (congrArg List.head? hequal) hafter.noEqual
      · rfl
  | cons c rest =>
      by_cases hc : c = '='
      · rw [hc]
        rfl
      · simp [orEqual, hc]

theorem quotedText_extend {quote : Char} {content : List Char}
    (h : quotedText quote line = .ok (content, left)) :
    quotedText quote (line ++ after) = .ok (content, left ++ after) := by
  obtain ⟨rfl, hquote, hplain⟩ := quotedText_eq_ok_iff.mp h
  exact quotedText_eq_ok_iff.mpr ⟨by simp, hquote, hplain⟩

theorem number_extend (hafter : Bounded after) (h : number line = .ok (token, left)) :
    number (line ++ after) = .ok (token, left ++ after) := by
  have hdigit := hafter.stops_isDigit
  have hword := hafter.noWord
  have hstart : Stops isWordStart after := hafter.stops fun _ => isWordChar_of_isWordStart
  have hgoesOn : Stops (fun c => decide (c = '.') || isWordChar c) after := by
    intro c hc
    have hne : c ≠ '.' := by
      rintro rfl
      exact hafter.noPoint hc
    simp [hne, hword c hc]
  by_cases hpoint : (line.dropWhile Char.isDigit).head? = some '.'
  · obtain ⟨rest, hrest⟩ := List.head?_eq_some_iff.mp hpoint
    have hrest' : (line ++ after).dropWhile Char.isDigit = '.' :: (rest ++ after) := by
      rw [hdigit.dropWhile_extend, hrest]
      rfl
    rw [number_of_point hrest] at h
    rw [number_of_point hrest', hdigit.takeWhile_extend, hdigit.takeWhile_extend,
      hdigit.dropWhile_extend, hgoesOn.any_extend]
    split at h
    · simp at h
    next hgood =>
      cases h
      rw [if_neg hgood]
  · have hpoint' : ((line ++ after).dropWhile Char.isDigit).head? ≠ some '.' := by
      rw [hdigit.dropWhile_extend]
      cases hrest : line.dropWhile Char.isDigit with
      | nil => exact hafter.noPoint
      | cons c rest => simpa [hrest] using hpoint
    rw [number_of_ne_point hpoint] at h
    rw [number_of_ne_point hpoint', hdigit.dropWhile_extend, hdigit.takeWhile_extend,
      hstart.any_extend, hword.takeWhile_extend, hword.dropWhile_extend]
    split at h
    next hname =>
      cases h
      rw [if_pos hname]
    next hname =>
      cases h
      rw [if_neg hname]

theorem signedNumber_extend (hafter : Bounded after) {sign : Char}
    (h : signedNumber sign line = .ok (token, left)) :
    signedNumber sign (line ++ after) = .ok (token, left ++ after) := by
  unfold signedNumber at h
  split at h
  · simp at h
  next hnumber =>
    cases h
    simp only [signedNumber, number_extend hafter hnumber]
  next hnumber =>
    cases h
    simp only [signedNumber, number_extend hafter hnumber]
  next hname hinteger hdecimal =>
    have hnumber := number_extend hafter h
    unfold signedNumber
    cases token with
    | name => exact absurd h (hname _ _)
    | integer => exact absurd h (hinteger _ _)
    | decimal => exact absurd h (hdecimal _ _)
    | _ => rw [hnumber]

theorem nextWord_extend (hafter : Bounded after) {c : Char}
    (h : nextWord c rest = .ok (token, left)) :
    nextWord c (rest ++ after) = .ok (token, left ++ after) := by
  have hword := hafter.noWord
  unfold nextWord at h ⊢
  rw [hafter.stops_isDigit.any_extend]
  split at h
  next hquote =>
    obtain ⟨⟨content, behind⟩, hread, hfound⟩ := map_eq_ok_iff.mp h
    cases hfound
    rw [if_pos hquote, quotedText_extend hread]
    rfl
  next hquote =>
    rw [if_neg hquote]
    split at h
    next hsigned =>
      rw [if_pos hsigned]
      exact signedNumber_extend hafter h
    next hsigned =>
      rw [if_neg hsigned]
      split at h
      next hdigit =>
        rw [if_pos hdigit]
        exact number_extend hafter h
      next hdigit =>
        rw [if_neg hdigit]
        split at h
        next hstart =>
          cases h
          rw [if_pos hstart, hword.takeWhile_extend, hword.dropWhile_extend]
        · simp at h

/-- A token is the same if more of the line stands behind it that it does not go on with. -/
theorem next_extend (hafter : Bounded after) {c : Char} (h : next c rest = .ok (token, left)) :
    next c (rest ++ after) = .ok (token, left ++ after) := by
  unfold next at h
  split at h
  next sign hsign =>
    cases h
    simp [next, hsign]
  next hnone =>
    unfold next
    simp only [hnone]
    split at h
    · simp only [Except.ok.injEq] at h
      simp only [orEqual_extend hafter, h]
    · simp only [Except.ok.injEq] at h
      simp only [orEqual_extend hafter, h]
    · simp only [Except.ok.injEq] at h
      simp only [orEqual_extend hafter, h]
    · cases h
      rfl
    · simp at h
    next hassign hgreater hless hexclamation _ =>
      split
      · exact absurd rfl hassign
      · exact absurd rfl hgreater
      · exact absurd rfl hless
      · exact absurd rfl hexclamation
      · exact absurd rfl hexclamation
      · exact nextWord_extend hafter h

/-! ## Lines in parts -/

theorem scanChars_dropWhile (line : List Char) :
    scanChars (line.dropWhile isBlank) = scanChars line := by
  have hdrop : (line.dropWhile isBlank).dropWhile isBlank = line.dropWhile isBlank :=
    (stops_dropWhile isBlank line).dropWhile_eq_self
  cases hline : line.dropWhile isBlank with
  | nil => rw [scanChars_eq_nil hline, scanChars_eq_nil rfl]
  | cons c rest => rw [scanChars_cons hline, ← hline, scanChars_cons (hdrop.trans hline)]

theorem scanChars_cons_blank {c : Char} (h : isBlank c) (line : List Char) :
    scanChars (c :: line) = scanChars line := by
  rw [← scanChars_dropWhile (c :: line), List.dropWhile_cons_of_pos h, scanChars_dropWhile]

/-- The tokens of a line are followed by those of what stands behind it, if none of them goes
on. -/
theorem scanChars_append (hafter : Bounded after) {tokens : List Token}
    (h : scanChars line = .ok tokens) :
    scanChars (line ++ after) = (scanChars after).map (tokens ++ ·) := by
  -- along the scan of the first part; each of its tokens is found where it was
  induction line using scanChars.induct generalizing tokens with
  | case1 line hline =>
      rw [scanChars_eq_nil hline] at h
      cases h
      rw [← scanChars_dropWhile, List.dropWhile_append_of_pos (List.dropWhile_eq_nil_iff.mp hline),
        scanChars_dropWhile]
      cases scanChars after with
      | error fault => rfl
      | ok others => rfl
  | case2 line c rest hline fault hnext =>
      rw [scanChars_cons hline, hnext, error_bind] at h
      simp at h
  | case3 line c rest hline token left hnext ih =>
      have hline' : (line ++ after).dropWhile isBlank = c :: (rest ++ after) := by
        rw [List.dropWhile_append, hline]
        rfl
      rw [scanChars_cons hline, hnext, ok_bind] at h
      obtain ⟨others, htokens, rfl⟩ := map_eq_ok_iff.mp h
      rw [scanChars_cons hline', next_extend hafter hnext, ok_bind, ih htokens]
      cases scanChars after with
      | error fault => rfl
      | ok more => rfl

theorem scanChars_single {c : Char} {sign : Symbol} (h : Symbol.single? c = some sign)
    (hblank : isBlank c = false) (rest : List Char) :
    scanChars (c :: rest) = (scanChars rest).map (.symbol sign :: ·) := by
  have hnext : next c rest = .ok (.symbol sign, rest) := by
    simp [next, h]
  rw [scanChars_cons (List.dropWhile_cons_of_neg (by simp [hblank])), hnext, ok_bind]

theorem scanChars_append_space {line : List Char} {tokens : List Token}
    (h : scanChars line = .ok tokens) (rest : List Char) :
    scanChars (line ++ ' ' :: rest) = (scanChars rest).map (tokens ++ ·) := by
  have hbounded : Bounded (' ' :: rest) := bounded_cons (by decide) (by decide) (by decide) _
  rw [scanChars_append hbounded h, scanChars_cons_blank (by decide)]

end Token

end Rowbase
