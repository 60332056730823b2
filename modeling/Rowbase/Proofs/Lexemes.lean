import Rowbase.Proofs.Outcomes
import Rowbase.Token.Scan

/-!
# The readers of the scanner

What each reader of the scanner does, told for the characters that it meets: a word, a number and
a quoted text each end where their run of characters ends, and the tokens of a line are read one
after the other.
-/

namespace Rowbase

/-! ## Word characters -/

namespace Unicode

theorem isAlpha_iff {c : Char} :
    c.isAlpha ↔ (65 ≤ c.toNat ∧ c.toNat ≤ 90) ∨ (97 ≤ c.toNat ∧ c.toNat ≤ 122) := by
  simp [Char.isAlpha, Char.isUpper, Char.isLower, UInt32.le_iff_toNat_le, ← Char.toNat_val]

theorem isDigit_iff {c : Char} : c.isDigit ↔ 48 ≤ c.toNat ∧ c.toNat ≤ 57 := by
  simp [Char.isDigit, UInt32.le_iff_toNat_le, ← Char.toNat_val]

/-- Ranges that start above a bound cover nothing up to it. -/
theorem lt_of_covers {ranges : Ranges} {bound : Nat} {c : Char}
    (hranges : ranges.all fun range => bound < range.1) (h : ranges.covers c) :
    bound < c.toNat := by
  obtain ⟨range, hmem, hrange⟩ := List.any_eq_true.mp h
  have hstart := List.all_eq_true.mp hranges range hmem
  simp only [decide_eq_true_eq, Bool.and_eq_true] at hstart hrange
  omega

theorem isControl_of_isWordChar {c : Char} (h : isWordChar c) : isControl c = false := by
  have hbounds : 48 ≤ c.toNat ∧ c.toNat ≤ 122 ∨ 0x9F < c.toNat := by
    simp only [isWordChar, Bool.or_eq_true, decide_eq_true_eq] at h
    rcases h with (halphabetic | hnumeric) | rfl
    · unfold isAlphabetic at halphabetic
      split at halphabetic
      · have halpha := isAlpha_iff.mp halphabetic
        omega
      · exact .inr (lt_of_covers (by decide +kernel) halphabetic)
    · unfold isNumeric at hnumeric
      split at hnumeric
      · have hdigit := isDigit_iff.mp hnumeric
        omega
      · exact .inr (lt_of_covers (by decide +kernel) hnumeric)
    · exact .inl (by decide)
  simp only [isControl, Bool.or_eq_false_iff, Bool.and_eq_false_iff, decide_eq_false_iff_not]
  omega

theorem isAscii_of_isDigit {c : Char} (h : c.isDigit) : isAscii c := by
  have hdigit := isDigit_iff.mp h
  simp only [isAscii, decide_eq_true_eq]
  omega

theorem isWordChar_of_isDigit {c : Char} (h : c.isDigit) : isWordChar c := by
  simp [isWordChar, isNumeric, isAscii_of_isDigit h, h]

theorem isDigit_of_isWordStart {c : Char} (h : isWordStart c) : c.isDigit = false := by
  rw [← Bool.not_eq_true]
  intro hdigit
  simp only [isWordStart, isAlphabetic, isAscii_of_isDigit hdigit, if_true, Bool.or_eq_true,
    isAlpha_iff, decide_eq_true_eq] at h
  rw [isDigit_iff] at hdigit
  rcases h with halpha | rfl
  · omega
  · exact absurd hdigit (by decide)

/-- No range of the one table has a code point in common with a range of the other. -/
def Ranges.apart (first second : Ranges) : Bool :=
  first.all fun range => second.all fun other => range.2 < other.1 || other.2 < range.1

theorem Ranges.covers_eq_false_of_apart {first second : Ranges} (hapart : first.apart second)
    {c : Char} (h : first.covers c) : second.covers c = false := by
  rw [← Bool.not_eq_true]
  intro hsecond
  obtain ⟨range, hrange, hin⟩ := List.any_eq_true.mp h
  obtain ⟨other, hother, hin'⟩ := List.any_eq_true.mp hsecond
  have hdisjoint := List.all_eq_true.mp (List.all_eq_true.mp hapart range hrange) other hother
  simp only [Bool.and_eq_true, decide_eq_true_eq] at hin hin'
  simp only [Bool.or_eq_true, decide_eq_true_eq] at hdisjoint
  omega

/-- Blanks are no part of a word. -/
theorem isWordChar_of_isBlank {c : Char} (h : isBlank c) : isWordChar c = false := by
  by_cases hascii : isAscii c
  · have hbounds : c.toNat = 32 ∨ 9 ≤ c.toNat ∧ c.toNat ≤ 13 := by
      simp only [isBlank, hascii, if_true, Bool.or_eq_true, Bool.and_eq_true,
        decide_eq_true_eq] at h
      rcases h with rfl | h
      · exact .inl rfl
      · exact .inr h
    rw [← Bool.not_eq_true]
    intro hword
    simp only [isWordChar, isAlphabetic, isNumeric, hascii, if_true, Bool.or_eq_true,
      decide_eq_true_eq] at hword
    rcases hword with (halpha | hdigit) | rfl
    · have := isAlpha_iff.mp halpha
      omega
    · have := isDigit_iff.mp hdigit
      omega
    · exact absurd hbounds (by decide)
  · rw [Bool.not_eq_true] at hascii
    have hcovers : blankRanges.covers c := by simpa [isBlank, hascii] using h
    have halphabetic : isAlphabetic c = false := by
      simpa [isAlphabetic, hascii] using
        Ranges.covers_eq_false_of_apart (by decide +kernel) hcovers
    have hnumeric : isNumeric c = false := by
      simpa [isNumeric, hascii] using
        Ranges.covers_eq_false_of_apart (by decide +kernel) hcovers
    have hunderscore : c ≠ '_' := by
      rintro rfl
      simp [isAscii] at hascii
    simp [isWordChar, halphabetic, hnumeric, hunderscore]

theorem isBlank_of_isWordChar {c : Char} (h : isWordChar c) : isBlank c = false := by
  rw [← Bool.not_eq_true]
  intro hblank
  simp [isWordChar_of_isBlank hblank] at h

theorem isBlank_of_isDigit {c : Char} (h : c.isDigit) : isBlank c = false :=
  isBlank_of_isWordChar (isWordChar_of_isDigit h)

end Unicode

/-- A text without control characters. -/
def Text.Plain (text : String) : Prop :=
  ∀ c ∈ text.toList, Unicode.isControl c = false

theorem Text.plain_of_all {text : String}
    (h : (text.toList.all fun c => !Unicode.isControl c) = true) : Plain text := by
  intro c hc
  simpa using List.all_eq_true.mp h c hc

namespace Token

open Unicode

/-! ## Runs of characters -/

/-- What follows a run does not continue it. -/
def Stops (p : Char → Bool) (after : List Char) : Prop :=
  ∀ c, after.head? = some c → p c = false

theorem stops_nil (p : Char → Bool) : Stops p [] := by
  simp [Stops]

theorem Stops.takeWhile_eq_nil {p : Char → Bool} {after : List Char} (h : Stops p after) :
    after.takeWhile p = [] := by
  cases after with
  | nil => rfl
  | cons c rest => simp [h c rfl]

theorem Stops.dropWhile_eq_self {p : Char → Bool} {after : List Char} (h : Stops p after) :
    after.dropWhile p = after := by
  cases after with
  | nil => rfl
  | cons c rest => simp [h c rfl]

/-- A run that is followed by something else is found as it is. -/
theorem Stops.takeWhile_append {p : Char → Bool} {run after : List Char}
    (hrun : ∀ c ∈ run, p c) (h : Stops p after) :
    (run ++ after).takeWhile p = run := by
  rw [List.takeWhile_append_of_pos hrun, h.takeWhile_eq_nil, List.append_nil]

theorem Stops.dropWhile_append {p : Char → Bool} {run after : List Char}
    (hrun : ∀ c ∈ run, p c) (h : Stops p after) :
    (run ++ after).dropWhile p = after := by
  rw [List.dropWhile_append_of_pos hrun, h.dropWhile_eq_self]

/-- What a run leaves does not continue it. -/
theorem stops_dropWhile (p : Char → Bool) (line : List Char) : Stops p (line.dropWhile p) := by
  intro c hc
  have hnot := List.head?_dropWhile_not p line
  rw [hc] at hnot
  simpa using hnot

theorem of_mem_takeWhile {p : Char → Bool} {line : List Char} :
    ∀ c ∈ line.takeWhile p, p c :=
  List.all_eq_true.mp List.all_takeWhile

/-! ## Texts without control characters -/

theorem plain_ofList {text : List Char} (h : ∀ c ∈ text, isControl c = false) :
    Text.Plain (String.ofList text) := by
  rwa [Text.Plain, String.toList_ofList]

theorem isControl_of_isDigit {c : Char} (h : c.isDigit) : isControl c = false :=
  isControl_of_isWordChar (isWordChar_of_isDigit h)

theorem plain_append {left right : String} (hleft : Text.Plain left) (hright : Text.Plain right) :
    Text.Plain (left ++ right) := by
  intro c hc
  rw [String.toList_append, List.mem_append] at hc
  exact hc.elim (hleft c) (hright c)

/-! ## Words -/

/-- A word character is no symbol, nor the start of one. -/
theorem next_eq_nextWord {c : Char} (h : isWordChar c) (rest : List Char) :
    next c rest = nextWord c rest := by
  have hsingle : Symbol.single? c = none := by
    unfold Symbol.single?
    split
    · exact absurd h (by decide)
    · exact absurd h (by decide)
    · exact absurd h (by decide)
    · exact absurd h (by decide)
    · exact absurd h (by decide)
    · rfl
  unfold next
  simp only [hsingle]
  split
  · exact absurd h (by decide)
  · exact absurd h (by decide)
  · exact absurd h (by decide)
  · exact absurd h (by decide)
  · exact absurd h (by decide)
  · rfl

theorem nextWord_of_isDigit {c : Char} (h : c.isDigit) (rest : List Char) :
    nextWord c rest = number (c :: rest) := by
  have hquote : ¬(c = '\'' ∨ c = '"') := by
    rintro (rfl | rfl)
    · exact absurd h (by decide)
    · exact absurd h (by decide)
  have hsign : ¬(c = '+' ∨ c = '-') := by
    rintro (rfl | rfl)
    · exact absurd h (by decide)
    · exact absurd h (by decide)
  simp [nextWord, hquote, hsign, h]

theorem nextWord_of_isWordStart {c : Char} (h : isWordStart c) (rest : List Char) :
    nextWord c rest =
      .ok (ofWord (c :: rest.takeWhile isWordChar), rest.dropWhile isWordChar) := by
  have hquote : ¬(c = '\'' ∨ c = '"') := by
    rintro (rfl | rfl)
    · exact absurd h (by decide)
    · exact absurd h (by decide)
  have hsign : ¬(c = '+' ∨ c = '-') := by
    rintro (rfl | rfl)
    · exact absurd h (by decide)
    · exact absurd h (by decide)
  simp [nextWord, hquote, hsign, isDigit_of_isWordStart h, h]

/-- What holds of every truth value, of every keyword, and of the name that a word is if it is
neither, holds of the token of the word. -/
theorem ofWord_induction {motive : Token → Prop} (word : List Char)
    (hboolean : ∀ value, motive (.boolean value))
    (hkeyword : ∀ reserved, motive (.keyword reserved))
    (hname : ofWord word = .name (String.ofList word) → motive (.name (String.ofList word))) :
    motive (ofWord word) := by
  unfold ofWord at hname ⊢
  simp only at hname ⊢
  split
  · exact hboolean true
  next htrue =>
    split
    · exact hboolean false
    next hfalse =>
      split
      next reserved _ => exact hkeyword reserved
      next hnone => exact hname (by simp [htrue, hfalse, hnone])

theorem ofList_of_ofWord_eq_name {word : List Char} {spelling : String}
    (h : ofWord word = .name spelling) : String.ofList word = spelling := by
  refine ofWord_induction (motive := fun token => token = .name spelling → _ = spelling) word
    ?_ ?_ (fun _ => Token.name.inj) h
  · simp
  · simp

/-! ## Quoted texts -/

variable {line rest left after : List Char}

theorem plain_of_quotedText {quote : Char} {content : List Char}
    (h : quotedText quote line = .ok (content, left)) :
    ∀ c ∈ content, isControl c = false := by
  unfold quotedText at h
  simp only at h
  split at h
  · simp at h
  next hnone =>
    split at h
    · simp at h
    · cases h
      intro c hc
      have hfind := List.find?_eq_none.mp hnone c hc
      simpa using hfind

/-- A text that is closed is refused only for a control character. -/
theorem quotedText_closed {quote : Char} {content : List Char} (closed : quote ∉ content)
    (rest : List Char) :
    quotedText quote (content ++ quote :: rest) =
      match content.find? isControl with
      | some c => .error (.control c)
      | none => .ok (content, rest) := by
  have hrun : ∀ c ∈ content, decide (c ≠ quote) = true := by
    intro c hc
    rw [decide_eq_true_eq]
    rintro rfl
    exact closed hc
  have hstops : Stops (fun c => decide (c ≠ quote)) (quote :: rest) := by
    intro c hc
    cases hc
    simp
  have htake := hstops.takeWhile_append hrun
  have hdrop := hstops.dropWhile_append hrun
  unfold quotedText
  cases hfind : content.find? isControl with
  | none => simp only [htake, hdrop, hfind]
  | some c => simp only [htake, hfind]

/-- A quoted text ends at the first quote. -/
theorem quotedText_eq_ok_iff {quote : Char} {content : List Char} :
    quotedText quote line = .ok (content, left) ↔
      line = content ++ quote :: left ∧ quote ∉ content ∧ ∀ c ∈ content, isControl c = false := by
  constructor
  · intro h
    have hplain := plain_of_quotedText h
    unfold quotedText at h
    simp only at h
    split at h
    · simp at h
    · split at h
      · simp at h
      next closing rest hrest =>
        cases h
        have hclosing : closing = quote := by
          have hstop := stops_dropWhile (fun c => decide (c ≠ quote)) line closing
            (congrArg List.head? hrest)
          simpa using hstop
        have hline := List.takeWhile_append_dropWhile (p := (· ≠ quote)) (l := line)
        rw [hrest, hclosing] at hline
        refine ⟨hline.symm, ?_, hplain⟩
        intro hquote
        simpa using of_mem_takeWhile _ hquote
  · rintro ⟨rfl, hquote, hplain⟩
    have hfind : content.find? isControl = none := by
      rw [List.find?_eq_none]
      intro c hc
      simp [hplain c hc]
    rw [quotedText_closed hquote]
    simp only [hfind]

/-- A quote starts a quoted text. -/
theorem next_of_quote {c : Char} (h : c = '\'' ∨ c = '"') (rest : List Char) :
    next c rest =
      (quotedText c rest).map fun found => (text (String.ofList found.1), found.2) := by
  rcases h with rfl | rfl
  · rfl
  · rfl

/-! ## Numbers -/

/-- A number without a point is a name or an integer. -/
theorem number_of_ne_point (h : (line.dropWhile Char.isDigit).head? ≠ some '.') :
    number line =
      if (line.dropWhile Char.isDigit).head?.any isWordStart then
        .ok (name (String.ofList (line.takeWhile Char.isDigit
          ++ (line.dropWhile Char.isDigit).takeWhile isWordChar)),
          (line.dropWhile Char.isDigit).dropWhile isWordChar)
      else .ok (integer (String.ofList (line.takeWhile Char.isDigit)),
        line.dropWhile Char.isDigit) := by
  unfold number
  simp only
  split
  next hpoint => exact absurd (congrArg List.head? hpoint) h
  · rfl

/-- A number with a point needs places behind it, and nothing of a word behind these. -/
theorem number_of_point (h : line.dropWhile Char.isDigit = '.' :: rest) :
    number line =
      if (rest.takeWhile Char.isDigit).isEmpty ||
          (rest.dropWhile Char.isDigit).head?.any (fun c => c = '.' || isWordChar c) then
        .error (.malformedNumber (String.ofList
          (line.takeWhile Char.isDigit ++ '.' :: rest.takeWhile Char.isDigit)))
      else .ok (decimal (String.ofList
        (line.takeWhile Char.isDigit ++ '.' :: rest.takeWhile Char.isDigit)),
        rest.dropWhile Char.isDigit) := by
  unfold number
  simp only [h]

/-- A number is a name when a word goes on behind its digits. -/
theorem number_eq_name {digits word : List Char} (hdigits : ∀ c ∈ digits, c.isDigit)
    (hstart : word.head?.any isWordStart) (hword : ∀ c ∈ word, isWordChar c)
    (hafter : Stops isWordChar after) :
    number (digits ++ (word ++ after)) = .ok (.name (String.ofList (digits ++ word)), after) := by
  cases word with
  | nil => simp at hstart
  | cons start rest =>
      have hletter : isWordStart start := hstart
      have hstops : Stops Char.isDigit (start :: rest ++ after) := by
        intro c hc
        cases hc
        exact isDigit_of_isWordStart hletter
      have hdrop := hstops.dropWhile_append hdigits
      have hpoint : ((digits ++ (start :: rest ++ after)).dropWhile Char.isDigit).head? ≠
          some '.' := by
        rw [hdrop]
        intro hhead
        cases hhead
        exact absurd hletter (by decide)
      rw [number_of_ne_point hpoint, hdrop, hstops.takeWhile_append hdigits,
        hafter.takeWhile_append hword, hafter.dropWhile_append hword]
      exact if_pos hletter

/-! ## Lines -/

theorem scanChars_eq_nil {line : List Char} (h : line.dropWhile isBlank = []) :
    scanChars line = .ok [] := by
  rw [scanChars]
  split
  · rfl
  next hcons => simp [h] at hcons

theorem scanChars_cons {line rest : List Char} {c : Char}
    (h : line.dropWhile isBlank = c :: rest) :
    scanChars line =
      next c rest >>= fun scanned => (scanChars scanned.2).map (scanned.1 :: ·) := by
  rw [scanChars]
  split
  next hnil => simp [h] at hnil
  next hcons =>
    rw [h] at hcons
    cases hcons
    split
    next hnext => rw [hnext, error_bind]
    next hnext => rw [hnext, ok_bind]

/-- A line that is one token. -/
theorem scanChars_of_next {c : Char} {rest : List Char} {token : Token}
    (hblank : isBlank c = false) (h : next c rest = .ok (token, [])) :
    scanChars (c :: rest) = .ok [token] := by
  have hend : scanChars [] = .ok [] := scanChars_eq_nil rfl
  rw [scanChars_cons (List.dropWhile_cons_of_neg (by simp [hblank])), h, ok_bind, hend]
  rfl

/-- What holds of every token that can be read holds of all tokens of a line. -/
theorem forall_mem_scanChars {good : Token → Prop}
    (hnext : ∀ {c : Char} {rest after : List Char} {token : Token},
      next c rest = .ok (token, after) → good token)
    {line : List Char} {tokens : List Token} (h : scanChars line = .ok tokens) :
    ∀ token ∈ tokens, good token := by
  induction line using scanChars.induct generalizing tokens with
  | case1 line hline =>
      rw [scanChars_eq_nil hline] at h
      cases h
      simp
  | case2 line c rest hline fault hfault =>
      rw [scanChars_cons hline, hfault, error_bind] at h
      simp at h
  | case3 line c rest hline token after htoken ih =>
      rw [scanChars_cons hline, htoken, ok_bind] at h
      obtain ⟨others, htokens, rfl⟩ := map_eq_ok_iff.mp h
      exact List.forall_mem_cons.mpr ⟨hnext htoken, ih htokens⟩

end Token

end Rowbase
