import Rowbase.Proofs.LetterCase

/-!
# Lines in other letters

A line may be written with capitals for small letters, and small letters for capitals, anywhere
outside of quoted texts. The scanner takes both lines apart at the same places and finds the same
tokens but for the spelling of names, or it fails on both.
-/

namespace Rowbase.Token

open Unicode

/-- The characters that open and close a text. -/
def IsQuote (c : Char) : Prop :=
  c = '\'' ∨ c = '"'

/-- Lines that are the same but for the case of letters outside of quoted texts. A quote that is
never closed has no text behind it. -/
inductive Recased : List Char → List Char → Prop where
  | nil : Recased [] []
  | outside {c d : Char} {first second : List Char} (unquoted : ¬IsQuote c)
      (same : c.toLower = d.toLower) (rest : Recased first second) :
      Recased (c :: first) (d :: second)
  | quoted {quote : Char} {content first second : List Char} (isQuote : IsQuote quote)
      (closed : quote ∉ content) (rest : Recased first second) :
      Recased (quote :: (content ++ quote :: first)) (quote :: (content ++ quote :: second))
  | unclosed {quote : Char} {first second : List Char} (isQuote : IsQuote quote)
      (opened : quote ∉ first) (same : SameLetters first second) :
      Recased (quote :: first) (quote :: second)

instance (c : Char) : Decidable (IsQuote c) :=
  inferInstanceAs (Decidable (c = '\'' ∨ c = '"'))

/-- The same token but for the spelling of a name. -/
inductive Alike : Token → Token → Prop where
  | refl (token : Token) : Alike token token
  | name {text other : String} (same : Name.Same text other) : Alike (.name text) (.name other)

variable {first second : List Char} {c d : Char} {p : Char → Bool}

/-! ## Characters and runs -/

/-- A character that cannot start a word is no letter. -/
theorem eq_of_toLower_eq_of_not_isWordStart (h : c.toLower = d.toLower)
    (hc : isWordStart c = false) : c = d := by
  have hself (e : Char) (he : isWordStart e = false) : e.toLower = e := by
    rcases toLower_eq_or_mem e with hlower | hcapital
    · exact hlower
    · have hstart : capitals.all isWordStart := by decide
      simp [List.all_eq_true.mp hstart e hcapital] at he
  have hd : isWordStart d = false := by
    rw [← isWordStart_toLower d, ← h, isWordStart_toLower, hc]
  rw [← hself c hc, h, hself d hd]

/-- A class of characters that treats capitals as it does small letters, and has no quotes. -/
structure Caseless (p : Char → Bool) : Prop where
  toLower : ∀ c, p c.toLower = p c
  noQuote : p '\'' = false ∧ p '"' = false

theorem caseless_isBlank : Caseless isBlank :=
  ⟨isBlank_toLower, by decide⟩

theorem caseless_isDigit : Caseless Char.isDigit :=
  ⟨isDigit_toLower, by decide⟩

theorem caseless_isWordChar : Caseless isWordChar :=
  ⟨isWordChar_toLower, by decide⟩

theorem caseless_isWordStart : Caseless isWordStart :=
  ⟨isWordStart_toLower, by decide⟩

theorem Caseless.eq_false_of_isQuote (h : Caseless p) (hc : IsQuote c) : p c = false := by
  rcases hc with rfl | rfl
  · exact h.noQuote.1
  · exact h.noQuote.2

theorem SameLetters.cons (hc : c.toLower = d.toLower) (h : SameLetters first second) :
    SameLetters (c :: first) (d :: second) := by
  rw [SameLetters, List.map_cons, List.map_cons, hc, h]

theorem SameLetters.append {left right : List Char} (h : SameLetters first second)
    (hrest : SameLetters left right) : SameLetters (first ++ left) (second ++ right) := by
  rw [SameLetters, List.map_append, List.map_append, h, hrest]

/-- A run without quotes may stand in other letters in front of a line. -/
theorem Recased.append {left right : List Char} (h : Recased first second)
    (hsame : SameLetters left right) (hquote : ∀ c ∈ left, ¬IsQuote c) :
    Recased (left ++ first) (right ++ second) := by
  induction left generalizing right with
  | nil =>
      obtain rfl := List.map_eq_nil_iff.mp hsame.symm
      exact h
  | cons c left ih =>
      obtain ⟨d, others, rfl, hc, hrest⟩ := List.map_eq_cons_iff.mp hsame.symm
      rw [List.forall_mem_cons] at hquote
      exact .outside hquote.1 hc.symm (ih hrest.symm hquote.2)

theorem SameLetters.name_same (h : SameLetters first second) :
    Name.Same (String.ofList first) (String.ofList second) := by
  apply String.toList_injective
  rw [Name.toList_key, Name.toList_key, String.toList_ofList, String.toList_ofList]
  exact h

namespace Recased

theorem takeWhile (h : Recased first second) (hp : Caseless p) :
    SameLetters (first.takeWhile p) (second.takeWhile p) := by
  induction h with
  | nil => rfl
  | outside _ same _ ih =>
      rw [List.takeWhile_cons, List.takeWhile_cons, eq_of_toLower_eq hp.toLower same]
      split
      · exact ih.cons same
      · rfl
  | quoted isQuote _ _ => simp [hp.eq_false_of_isQuote isQuote, SameLetters]
  | unclosed isQuote _ _ => simp [hp.eq_false_of_isQuote isQuote, SameLetters]

theorem dropWhile (h : Recased first second) (hp : Caseless p) :
    Recased (first.dropWhile p) (second.dropWhile p) := by
  induction h with
  | nil => exact .nil
  | outside unquoted same rest ih =>
      rw [List.dropWhile_cons, List.dropWhile_cons, eq_of_toLower_eq hp.toLower same]
      split
      · exact ih
      · exact .outside unquoted same rest
  | quoted isQuote closed rest =>
      simpa [hp.eq_false_of_isQuote isQuote] using Recased.quoted isQuote closed rest
  | unclosed isQuote opened same =>
      simpa [hp.eq_false_of_isQuote isQuote] using Recased.unclosed isQuote opened same

theorem any_head?_eq (h : Recased first second) (hp : ∀ c, p c.toLower = p c) :
    first.head?.any p = second.head?.any p := by
  cases h with
  | outside _ same _ => exact eq_of_toLower_eq hp same
  | _ => rfl

/-- A character that is no quote stands before lines that are the same again. -/
theorem of_cons (h : Recased (c :: first) second) (hc : ¬IsQuote c) :
    ∃ d rest, second = d :: rest ∧ c.toLower = d.toLower ∧ Recased first rest := by
  cases h with
  | outside _ same rest => exact ⟨_, _, rfl, same, rest⟩
  | quoted isQuote _ _ => exact absurd isQuote hc
  | unclosed isQuote _ _ => exact absurd isQuote hc

/-- Signs are the same in both lines. -/
theorem of_sign (h : Recased (c :: first) second) (hstart : isWordStart c = false)
    (hc : ¬IsQuote c) : ∃ rest, second = c :: rest ∧ Recased first rest := by
  obtain ⟨d, rest, rfl, hsame, hrest⟩ := h.of_cons hc
  rw [eq_of_toLower_eq_of_not_isWordStart hsame hstart]
  exact ⟨rest, rfl, hrest⟩

theorem head?_eq_some_iff (h : Recased first second) (hstart : isWordStart c = false) :
    first.head? = some c ↔ second.head? = some c := by
  cases h with
  | outside _ same _ =>
      simp only [List.head?_cons, Option.some.injEq]
      constructor
      · rintro rfl
        exact (eq_of_toLower_eq_of_not_isWordStart same hstart).symm
      · rintro rfl
        exact (eq_of_toLower_eq_of_not_isWordStart same.symm hstart).symm
  | _ => exact Iff.rfl

end Recased

/-! ## One token -/

/-- Faults need not be told apart. -/
abbrev AnyFaults (_ _ : ScanError) : Prop := True

/-- Both scans fail, or both find the same token but for the spelling of a name, and leave lines
that are the same but for the case of letters. -/
def Abreast : Scanned → Scanned → Prop :=
  Parallel AnyFaults fun scanned other =>
    Alike scanned.1 other.1 ∧ Recased scanned.2 other.2

theorem SameLetters.ofWord_alike (h : SameLetters first second) :
    Alike (ofWord first) (ofWord second) := by
  rcases h.ofWord_eq with heq | ⟨hfirst, hsecond⟩
  · rw [heq]
    exact .refl _
  · rw [hfirst, hsecond]
    exact .name h.name_same

theorem toLower_of_isDigit (h : c.isDigit) : c.toLower = c := by
  rcases toLower_eq_or_mem c with hlower | hcapital
  · exact hlower
  · have hdigit : capitals.all fun c => !c.isDigit := by decide
    have hnot := List.all_eq_true.mp hdigit c hcapital
    simp [h] at hnot

namespace Recased

theorem takeWhile_isDigit (h : Recased first second) :
    first.takeWhile Char.isDigit = second.takeWhile Char.isDigit := by
  induction h with
  | nil => rfl
  | @outside c d _ _ _ same _ ih =>
      have hdigit : c.isDigit = d.isDigit := eq_of_toLower_eq isDigit_toLower same
      rw [List.takeWhile_cons, List.takeWhile_cons, ← hdigit]
      split
      next hc =>
        rw [toLower_of_isDigit hc, toLower_of_isDigit (hdigit ▸ hc)] at same
        rw [same, ih]
      · rfl
  | quoted isQuote _ _ => simp [caseless_isDigit.eq_false_of_isQuote isQuote]
  | unclosed isQuote _ _ => simp [caseless_isDigit.eq_false_of_isQuote isQuote]

theorem orEqual (h : Recased first second) (short long : Symbol) :
    Alike (Token.orEqual short long first).1 (Token.orEqual short long second).1 ∧
      Recased (Token.orEqual short long first).2 (Token.orEqual short long second).2 := by
  by_cases hequal : first.head? = some '='
  · obtain ⟨rest, rfl⟩ := List.head?_eq_some_iff.mp hequal
    obtain ⟨others, rfl, hrest⟩ := h.of_sign (by decide) (by simp [IsQuote])
    exact ⟨.refl _, hrest⟩
  · have hsecond : second.head? ≠ some '=' := mt (h.head?_eq_some_iff (by decide)).mpr hequal
    have hshort (line : List Char) (hline : line.head? ≠ some '=') :
        Token.orEqual short long line = (.symbol short, line) := by
      unfold Token.orEqual
      split
      · simp at hline
      · rfl
    rw [hshort first hequal, hshort second hsecond]
    exact ⟨.refl _, h⟩

/-- Numbers end at the same place, and so do the names that start with digits. -/
theorem number (h : Recased first second) : Abreast (number first) (number second) := by
  have hdrop := h.dropWhile caseless_isDigit
  by_cases hpoint : (first.dropWhile Char.isDigit).head? = some '.'
  · obtain ⟨rest, hrest⟩ := List.head?_eq_some_iff.mp hpoint
    rw [hrest] at hdrop
    obtain ⟨others, hothers, hsame⟩ := hdrop.of_sign (by decide) (by simp [IsQuote])
    have hafter := hsame.dropWhile caseless_isDigit
    rw [number_of_point hrest, number_of_point hothers, h.takeWhile_isDigit,
      hsame.takeWhile_isDigit, hafter.any_head?_eq (apply_toLower _ (by decide))]
    split
    · exact .error trivial
    · exact .ok ⟨.refl _, hafter⟩
  · have hpoint' := mt (hdrop.head?_eq_some_iff (by decide)).mpr hpoint
    rw [number_of_ne_point hpoint, number_of_ne_point hpoint', h.takeWhile_isDigit,
      hdrop.any_head?_eq isWordStart_toLower]
    split
    · have hname : SameLetters _ _ :=
        (show SameLetters (second.takeWhile Char.isDigit) _ from rfl).append
          (hdrop.takeWhile caseless_isWordChar)
      exact .ok ⟨.name hname.name_same, hdrop.dropWhile caseless_isWordChar⟩
    · exact .ok ⟨.refl _, hdrop⟩

/-- A sign before a name is refused in both lines. -/
theorem signedNumber (h : Recased first second) (sign : Char) :
    Abreast (signedNumber sign first) (signedNumber sign second) := by
  have hnumber := h.number
  unfold Token.signedNumber
  generalize Token.number first = scanned at hnumber
  generalize Token.number second = other at hnumber
  cases hnumber with
  | error related => exact .error trivial
  | @ok scanned other related =>
      obtain ⟨token, left⟩ := scanned
      obtain ⟨token', left'⟩ := other
      obtain ⟨halike, hleft⟩ := related
      cases halike with
      | refl =>
          cases token with
          | name => exact .error trivial
          | _ => exact .ok ⟨.refl _, hleft⟩
      | name => exact .error trivial

end Recased

theorem quotedText_unclosed {quote : Char} {line : List Char} (opened : quote ∉ line) :
    ∃ fault, quotedText quote line = .error fault := by
  cases hfound : quotedText quote line with
  | error fault => exact ⟨fault, rfl⟩
  | ok found =>
      obtain ⟨hline, -⟩ := quotedText_eq_ok_iff.mp hfound
      exact absurd (by simp [hline]) opened

theorem SameLetters.mem_iff (h : SameLetters first second) (hc : IsQuote c) :
    c ∈ first ↔ c ∈ second := by
  have hself : c.toLower = c := by
    rcases hc with rfl | rfl <;> decide
  have hmem (line : List Char) : c ∈ line ↔ c ∈ line.map Char.toLower := by
    rw [List.mem_map]
    constructor
    · exact fun h => ⟨c, h, hself⟩
    · rintro ⟨d, hd, hlower⟩
      rwa [← eq_of_toLower_eq_of_not_isWordStart (hself.trans hlower.symm)
        (caseless_isWordStart.eq_false_of_isQuote hc)] at hd
  rw [hmem, h, ← hmem]

theorem next_exclamation {line : List Char} (h : line.head? ≠ some '=') :
    next '!' line = .error .lonelyExclamation := by
  cases line with
  | nil => rfl
  | cons c rest =>
      have hc : c ≠ '=' := by simpa using h
      simp [next, Symbol.single?, hc]

/-- A character that is no symbol, nor the start of one, starts a number, a text or a word. -/
theorem next_of_not_mem (hsingle : Symbol.single? c = none) (hc : c ∉ ['=', '>', '<', '!'])
    (rest : List Char) : next c rest = nextWord c rest := by
  simp only [List.mem_cons, List.not_mem_nil, or_false, not_or] at hc
  unfold next
  simp only [hsingle]
  split
  · exact absurd rfl hc.1
  · exact absurd rfl hc.2.1
  · exact absurd rfl hc.2.2.1
  · exact absurd rfl hc.2.2.2
  · exact absurd rfl hc.2.2.2
  · rfl

theorem nextWord_of_not_isWordStart (hquote : ¬IsQuote c) (hdigit : ¬c.isDigit)
    (hstart : isWordStart c = false) (rest : List Char) :
    nextWord c rest =
      if (c = '+' || c = '-') && rest.head?.any Char.isDigit then signedNumber c rest
      else .error (.unrecognized c) := by
  have hneither : (c = '\'' || c = '"') = false := by simpa [IsQuote] using hquote
  simp [nextWord, hneither, hdigit, hstart]

namespace Recased

/-- A text that is closed is the same in both lines, and without one both scans fail. -/
theorem quotedText (h : Recased (c :: first) second) (hc : IsQuote c) :
    ∃ others, second = c :: others ∧
      Parallel AnyFaults (fun found other => found.1 = other.1 ∧ Recased found.2 other.2)
        (quotedText c first) (Token.quotedText c others) := by
  cases h with
  | outside unquoted _ _ => exact absurd hc unquoted
  | @quoted _ content first second _ closed rest =>
      refine ⟨_, rfl, ?_⟩
      rw [quotedText_closed closed, quotedText_closed closed]
      split
      · exact .error trivial
      · exact .ok ⟨rfl, rest⟩
  | @unclosed _ _ others _ opened same =>
      obtain ⟨fault, hfault⟩ := quotedText_unclosed opened
      obtain ⟨other, hother⟩ := quotedText_unclosed (mt (same.mem_iff hc).mpr opened)
      refine ⟨others, rfl, ?_⟩
      rw [hfault, hother]
      exact .error trivial

/-- A word goes on as far in both lines. -/
theorem next_of_isWordStart (h : Recased first second) (hc : isWordStart c)
    (same : c.toLower = d.toLower) : Abreast (Token.next c first) (Token.next d second) := by
  have hd : isWordStart d := eq_of_toLower_eq isWordStart_toLower same ▸ hc
  have hword := (h.takeWhile caseless_isWordChar).cons same
  rw [next_eq_nextWord (isWordChar_of_isWordStart hc), nextWord_of_isWordStart hc,
    next_eq_nextWord (isWordChar_of_isWordStart hd), nextWord_of_isWordStart hd]
  exact .ok ⟨hword.ofWord_alike, h.dropWhile caseless_isWordChar⟩

/-- A sign is followed by an equals sign in both lines or in none. -/
theorem next_of_mem (h : Recased first second) (hc : c ∈ ['=', '>', '<', '!']) :
    Abreast (Token.next c first) (Token.next c second) := by
  fin_cases hc
  · exact .ok (h.orEqual _ _)
  · exact .ok (h.orEqual _ _)
  · exact .ok (h.orEqual _ _)
  · by_cases hequal : first.head? = some '='
    · obtain ⟨rest, rfl⟩ := List.head?_eq_some_iff.mp hequal
      obtain ⟨others, rfl, hrest⟩ := h.of_sign (by decide) (by simp [IsQuote])
      exact .ok ⟨.refl _, hrest⟩
    · have hsecond := mt (h.head?_eq_some_iff (by decide)).mpr hequal
      rw [next_exclamation hequal, next_exclamation hsecond]
      exact .error trivial

/-- A character that is no letter starts the same number in both lines, or nothing. -/
theorem next_of_not_isWordStart (h : Recased first second) (hstart : isWordStart c = false)
    (hquote : ¬IsQuote c) : Abreast (Token.next c first) (Token.next c second) := by
  by_cases hdigit : c.isDigit
  · have hnumber := (Recased.outside hquote rfl h).number
    rw [next_eq_nextWord (isWordChar_of_isDigit hdigit), nextWord_of_isDigit hdigit,
      next_eq_nextWord (isWordChar_of_isDigit hdigit), nextWord_of_isDigit hdigit]
    exact hnumber
  · cases hsingle : Symbol.single? c with
    | some sign =>
        simp only [Token.next, hsingle]
        exact .ok ⟨.refl _, h⟩
    | none =>
        by_cases hc : c ∈ ['=', '>', '<', '!']
        · exact h.next_of_mem hc
        · rw [next_of_not_mem hsingle hc, next_of_not_mem hsingle hc,
            nextWord_of_not_isWordStart hquote hdigit hstart,
            nextWord_of_not_isWordStart hquote hdigit hstart, h.any_head?_eq isDigit_toLower]
          split
          · exact h.signedNumber c
          · exact .error trivial

theorem next (h : Recased (c :: first) (d :: second)) :
    Abreast (next c first) (Token.next d second) := by
  by_cases hquote : IsQuote c
  · obtain ⟨others, heq, hquoted⟩ := h.quotedText hquote
    cases heq
    rw [next_of_quote hquote, next_of_quote hquote]
    exact hquoted.map fun _ _ ⟨hcontent, hrest⟩ => ⟨hcontent ▸ .refl _, hrest⟩
  · obtain ⟨_, _, heq, same, hrest⟩ := h.of_cons hquote
    cases heq
    by_cases hstart : isWordStart c
    · exact hrest.next_of_isWordStart hstart same
    · rw [Bool.not_eq_true] at hstart
      rw [← eq_of_toLower_eq_of_not_isWordStart same hstart]
      exact hrest.next_of_not_isWordStart hstart hquote

theorem eq_nil_iff (h : Recased first second) : first = [] ↔ second = [] := by
  cases h with
  | nil => exact Iff.rfl
  | _ => simp

theorem exists_cons (h : Recased (c :: first) second) : ∃ d others, second = d :: others := by
  rw [← List.ne_nil_iff_exists_cons]
  exact mt h.eq_nil_iff.mpr (List.cons_ne_nil c first)

/-- Where the first line has a token, the second has one as well. -/
theorem next_of_line {line rest : List Char} (h : Recased line second)
    (hline : line.dropWhile isBlank = c :: rest) :
    ∃ d others, second.dropWhile isBlank = d :: others ∧
      Abreast (Token.next c rest) (Token.next d others) := by
  have hdrop := h.dropWhile caseless_isBlank
  rw [hline] at hdrop
  obtain ⟨d, others, hsecond⟩ := hdrop.exists_cons
  rw [hsecond] at hdrop
  exact ⟨d, others, hsecond, hdrop.next⟩

/-- Both lines are scanned into tokens that are the same but for the spelling of names, or neither
is. -/
theorem scanChars (h : Recased first second) :
    Parallel AnyFaults (List.Forall₂ Alike) (scanChars first) (Token.scanChars second) := by
  -- along the scan of the first line; the second has a token where the first has one
  induction first using scanChars.induct generalizing second with
  | case1 line hline =>
      have hend := (h.dropWhile caseless_isBlank).eq_nil_iff.mp hline
      rw [scanChars_eq_nil hline, scanChars_eq_nil hend]
      exact .ok .nil
  | case2 line c rest hline fault hnext =>
      obtain ⟨d, others, hsecond, habreast⟩ := h.next_of_line hline
      rw [hnext] at habreast
      rw [scanChars_cons hline, scanChars_cons hsecond, hnext]
      generalize Token.next d others = scanned at habreast
      cases habreast with
      | error related => exact .error trivial
  | case3 line c rest hline token left hnext ih =>
      obtain ⟨d, others, hsecond, habreast⟩ := h.next_of_line hline
      rw [hnext] at habreast
      rw [scanChars_cons hline, scanChars_cons hsecond, hnext]
      generalize Token.next d others = scanned at habreast
      cases habreast with
      | ok related => exact (ih related.2).map fun _ _ htokens => .cons related.1 htokens

end Recased

end Rowbase.Token
