import Rowbase.Proofs.Lexemes

/-!
# Lexemes

The characters that one token takes have one of a few forms, which can be told without the
scanner. The scanner takes nothing else for a token, and characters of such a form that stand
alone are read as the token of that form. No token that is read from a line therefore holds a
control character, and a name is read as the same name again wherever something else follows it.
-/

namespace Rowbase

/-! ## Digits and signs -/

/-- At least one digit, and nothing else. -/
structure Digits (digits : String) : Prop where
  some : digits ≠ ""
  all : ∀ c ∈ digits.toList, c.isDigit

/-- What can stand in front of the digits of a number. -/
def signs : List String :=
  ["", "+", "-"]

theorem Digits.toList_ne_nil {digits : String} (h : Digits digits) : digits.toList ≠ [] :=
  mt String.toList_eq_nil_iff.mp h.some

theorem Digits.any_head? {digits : String} (h : Digits digits) (after : List Char) :
    (digits.toList ++ after).head?.any Char.isDigit := by
  cases hdigits : digits.toList with
  | nil => exact absurd hdigits h.toList_ne_nil
  | cons c rest => simp [h.all c (by simp [hdigits])]

namespace Token

open Unicode

/-! ## The forms -/

/-- Whether a run of characters is one word. -/
def isOneWord (word : List Char) : Bool :=
  word.head?.any (fun c => isWordStart c && !isBlank c) && word.all isWordChar

/-- The characters that a token can take in a line. -/
inductive Lexeme : List Char → Token → Prop where
  | symbol (sign : Symbol) : Lexeme sign.spelling.toList (.symbol sign)
  | quoted {quote : Char} {content : String} (either : quote = '\'' ∨ quote = '"')
      (plain : Text.Plain content) (lacks : quote ∉ content.toList) :
      Lexeme (quote :: content.toList ++ [quote]) (.text content)
  | integer {sign digits : String} (signed : sign ∈ signs) (whole : Digits digits) :
      Lexeme (sign ++ digits).toList (.integer (sign ++ digits))
  | decimal {sign digits places : String} (signed : sign ∈ signs) (whole : Digits digits)
      (fraction : Digits places) :
      Lexeme (sign ++ (digits ++ "." ++ places)).toList
        (.decimal (sign ++ (digits ++ "." ++ places)))
  /-- A name such as `2nd`, which has no sign. -/
  | numbered {digits : String} {word : List Char} (whole : Digits digits) (one : isOneWord word) :
      Lexeme (digits.toList ++ word) (.name (String.ofList (digits.toList ++ word)))
  | word {word : List Char} {token : Token} (one : isOneWord word) (said : ofWord word = token) :
      Lexeme word token

theorem isOneWord_cons {start : Char} {rest : List Char} (letter : isWordStart start)
    (run : ∀ c ∈ rest, isWordChar c) : isOneWord (start :: rest) := by
  have hstart := isWordChar_of_isWordStart letter
  simpa [isOneWord, letter, isBlank_of_isWordChar hstart, hstart] using run

theorem exists_cons_of_isOneWord {word : List Char} (h : isOneWord word) :
    ∃ start rest, word = start :: rest ∧ isWordStart start ∧ ∀ c ∈ rest, isWordChar c := by
  cases word with
  | nil => simp [isOneWord] at h
  | cons start rest =>
      simp only [isOneWord, List.head?_cons, Option.any_some, List.all_cons, Bool.and_eq_true,
        List.all_eq_true] at h
      exact ⟨start, rest, rfl, h.1.1, h.2.2⟩

theorem Lexeme.ne_nil {lexeme : List Char} {token : Token} (h : Lexeme lexeme token) :
    lexeme ≠ [] := by
  cases h with
  | symbol sign => cases sign <;> decide
  | quoted => simp
  | integer signed whole => simp [whole.toList_ne_nil]
  | decimal => simp
  | numbered whole one => simp [whole.toList_ne_nil]
  | word one said =>
      obtain ⟨start, rest, rfl, -, -⟩ := exists_cons_of_isOneWord one
      simp

/-- An unsigned numeral, and the kind of number that it is. -/
inductive Unsigned : String → (String → Token) → Prop where
  | integer {digits : String} (whole : Digits digits) : Unsigned digits .integer
  | decimal {digits places : String} (whole : Digits digits) (fraction : Digits places) :
      Unsigned (digits ++ "." ++ places) .decimal

theorem Unsigned.lexeme {sign numeral : String} {make : String → Token}
    (h : Unsigned numeral make) (signed : sign ∈ signs) :
    Lexeme (sign ++ numeral).toList (make (sign ++ numeral)) := by
  cases h with
  | integer whole => exact .integer signed whole
  | decimal whole fraction => exact .decimal signed whole fraction

/-! ## What the scanner takes -/

variable {line rest after : List Char} {token : Token}

theorem digits_takeWhile (h : line.takeWhile Char.isDigit ≠ []) :
    Digits (String.ofList (line.takeWhile Char.isDigit)) := by
  refine ⟨by simpa using h, ?_⟩
  rw [String.toList_ofList]
  exact of_mem_takeWhile

theorem takeWhile_isDigit_ne_nil (h : line.head?.any Char.isDigit) :
    line.takeWhile Char.isDigit ≠ [] := by
  cases line with
  | nil => simp at h
  | cons c rest =>
      have hc : c.isDigit := h
      simp [hc]

/-- What starts with a digit is an unsigned numeral or a name that starts with digits. -/
theorem number_cases (hdigit : line.head?.any Char.isDigit)
    (h : number line = .ok (token, after)) :
    (∃ numeral make, Unsigned numeral make ∧ token = make numeral ∧
        line = numeral.toList ++ after) ∨
      ∃ spelling lexeme, token = .name spelling ∧ Lexeme lexeme (.name spelling) ∧
        line = lexeme ++ after := by
  have hwhole := digits_takeWhile (takeWhile_isDigit_ne_nil hdigit)
  have hline := (List.takeWhile_append_dropWhile (p := Char.isDigit) (l := line)).symm
  by_cases hpoint : (line.dropWhile Char.isDigit).head? = some '.'
  · obtain ⟨rest, hrest⟩ := List.head?_eq_some_iff.mp hpoint
    rw [number_of_point hrest] at h
    split at h
    · simp at h
    next hgood =>
      cases h
      simp only [Bool.or_eq_true, not_or] at hgood
      have hplaces : rest.takeWhile Char.isDigit ≠ [] := by simpa using hgood.1
      have htext : String.ofList (line.takeWhile Char.isDigit) ++ "." ++
          String.ofList (rest.takeWhile Char.isDigit) =
            String.ofList (line.takeWhile Char.isDigit ++ '.' :: rest.takeWhile Char.isDigit) := by
        apply String.toList_inj.mp
        simp
      have hunsigned := Unsigned.decimal hwhole (digits_takeWhile hplaces)
      rw [htext] at hunsigned
      refine .inl ⟨_, _, hunsigned, rfl, ?_⟩
      rw [String.toList_ofList, List.append_assoc, List.cons_append,
        List.takeWhile_append_dropWhile, ← hrest]
      exact hline
  · rw [number_of_ne_point hpoint] at h
    split at h
    next hstart =>
      cases hrest : line.dropWhile Char.isDigit with
      | nil => simp [hrest] at hstart
      | cons start rest =>
          have hletter : isWordStart start := by simpa [hrest] using hstart
          have hword := isWordChar_of_isWordStart hletter
          have hrun : ∀ c ∈ rest.takeWhile isWordChar, isWordChar c := of_mem_takeWhile
          have hname := Lexeme.numbered hwhole (isOneWord_cons hletter hrun)
          rw [String.toList_ofList] at hname
          rw [hrest, List.takeWhile_cons_of_pos hword, List.dropWhile_cons_of_pos hword] at h
          cases h
          refine .inr ⟨_, _, rfl, hname, ?_⟩
          rw [List.append_assoc, List.cons_append, List.takeWhile_append_dropWhile, ← hrest]
          exact hline
    · cases h
      exact .inl ⟨_, _, .integer hwhole, rfl, by rw [String.toList_ofList]; exact hline⟩

theorem exists_lexeme_of_number (hdigit : line.head?.any Char.isDigit)
    (h : number line = .ok (token, after)) :
    ∃ lexeme, line = lexeme ++ after ∧ Lexeme lexeme token := by
  rcases number_cases hdigit h with
    ⟨numeral, make, hunsigned, rfl, hline⟩ | ⟨spelling, lexeme, rfl, hname, hline⟩
  · have hsign : "" ∈ signs := by decide
    have hnumber := hunsigned.lexeme hsign
    rw [String.empty_append] at hnumber
    exact ⟨_, hline, hnumber⟩
  · exact ⟨lexeme, hline, hname⟩

theorem exists_lexeme_of_signedNumber {sign : Char} (hsign : sign = '+' ∨ sign = '-')
    (hdigit : line.head?.any Char.isDigit) (h : signedNumber sign line = .ok (token, after)) :
    ∃ lexeme, sign :: line = lexeme ++ after ∧ Lexeme lexeme token := by
  have hsigned : sign.toString ∈ signs := by
    rcases hsign with rfl | rfl
    · decide
    · decide
  rw [signedNumber] at h
  cases hnumber : number line with
  | error fault => simp [hnumber] at h
  | ok found =>
      obtain ⟨bare, left⟩ := found
      rw [hnumber] at h
      rcases number_cases hdigit hnumber with
        ⟨numeral, make, hunsigned, rfl, hline⟩ | ⟨spelling, -, rfl, -, -⟩
      · have hlexeme := hunsigned.lexeme hsigned
        have hchars : (sign.toString ++ numeral).toList = sign :: numeral.toList := by simp
        cases hunsigned with
        | integer whole =>
            cases h
            exact ⟨_, by rw [hchars, hline]; rfl, hlexeme⟩
        | decimal whole fraction =>
            cases h
            exact ⟨_, by rw [hchars, hline]; rfl, hlexeme⟩
      · simp at h

theorem exists_lexeme_of_nextWord {c : Char} (h : nextWord c rest = .ok (token, after)) :
    ∃ lexeme, c :: rest = lexeme ++ after ∧ Lexeme lexeme token := by
  unfold nextWord at h
  split at h
  next hquote =>
    obtain ⟨⟨content, left⟩, hread, hfound⟩ := map_eq_ok_iff.mp h
    cases hfound
    obtain ⟨rfl, hlacks, hplain⟩ := quotedText_eq_ok_iff.mp hread
    refine ⟨c :: (String.ofList content).toList ++ [c], by simp, ?_⟩
    have heither : c = '\'' ∨ c = '"' := by simpa using hquote
    exact .quoted heither (plain_ofList hplain) (by simpa using hlacks)
  · split at h
    next hsigned =>
      simp only [Bool.and_eq_true, Bool.or_eq_true, decide_eq_true_eq] at hsigned
      exact exists_lexeme_of_signedNumber hsigned.1 hsigned.2 h
    · split at h
      next hdigit =>
        have hhead : (c :: rest).head?.any Char.isDigit := hdigit
        exact exists_lexeme_of_number hhead h
      · split at h
        next hstart =>
          cases h
          have hrun : ∀ d ∈ rest.takeWhile isWordChar, isWordChar d := of_mem_takeWhile
          have hone := isOneWord_cons hstart hrun
          exact ⟨c :: rest.takeWhile isWordChar, by simp, .word hone rfl⟩
        · simp at h

theorem spelling_of_single? {c : Char} {sign : Symbol} (h : Symbol.single? c = some sign) :
    sign.spelling.toList = [c] := by
  unfold Symbol.single? at h
  split at h <;> cases h <;> decide

theorem exists_lexeme_of_orEqual {c : Char} {short long : Symbol}
    (hshort : short.spelling.toList = [c]) (hlong : long.spelling.toList = [c, '='])
    (h : orEqual short long rest = (token, after)) :
    ∃ lexeme, c :: rest = lexeme ++ after ∧ Lexeme lexeme token := by
  unfold orEqual at h
  split at h
  · cases h
    exact ⟨_, by rw [hlong]; rfl, .symbol long⟩
  · cases h
    exact ⟨_, by rw [hshort]; rfl, .symbol short⟩

/-- A token takes a lexeme of it from the front of the line and leaves the rest. -/
theorem exists_lexeme_of_next {c : Char} (h : next c rest = .ok (token, after)) :
    ∃ lexeme, c :: rest = lexeme ++ after ∧ Lexeme lexeme token := by
  unfold next at h
  split at h
  next sign hsign =>
    cases h
    exact ⟨_, by rw [spelling_of_single? hsign]; rfl, .symbol sign⟩
  · split at h
    · exact exists_lexeme_of_orEqual (by decide) (by decide) (Except.ok.inj h)
    · exact exists_lexeme_of_orEqual (by decide) (by decide) (Except.ok.inj h)
    · exact exists_lexeme_of_orEqual (by decide) (by decide) (Except.ok.inj h)
    · cases h
      exact ⟨_, rfl, .symbol .notEqual⟩
    · simp at h
    · exact exists_lexeme_of_nextWord h

/-- Every token of a line has a lexeme there. -/
theorem exists_lexeme_of_scanChars {tokens : List Token} (h : scanChars line = .ok tokens) :
    ∀ token ∈ tokens, ∃ lexeme, Lexeme lexeme token := by
  refine forall_mem_scanChars (fun hnext => ?_) h
  obtain ⟨lexeme, -, hlexeme⟩ := exists_lexeme_of_next hnext
  exact ⟨lexeme, hlexeme⟩

/-! ## Names -/

/-- A run of word characters that is read as this name wherever something else follows it. -/
structure Named (text : String) : Prop where
  wordChars : ∀ c ∈ text.toList, isWordChar c
  reread : ∃ c rest, text.toList = c :: rest ∧ isBlank c = false ∧
    ∀ after, Stops isWordChar after → next c (rest ++ after) = .ok (.name text, after)

theorem Named.plain {text : String} (h : Named text) : Text.Plain text :=
  fun c hc => isControl_of_isWordChar (h.wordChars c hc)

theorem next_of_isOneWord {start : Char} (one : isOneWord (start :: rest))
    (hafter : Stops isWordChar after) :
    next start (rest ++ after) = .ok (ofWord (start :: rest), after) := by
  obtain ⟨_, _, heq, letter, run⟩ := exists_cons_of_isOneWord one
  cases heq
  rw [next_eq_nextWord (isWordChar_of_isWordStart letter), nextWord_of_isWordStart letter,
    hafter.takeWhile_append run, hafter.dropWhile_append run]

/-- A name is a word that is not reserved, or a word with digits in front of it. -/
theorem Lexeme.name_cases {lexeme : List Char} {spelling : String}
    (h : Lexeme lexeme (.name spelling)) :
    lexeme = spelling.toList ∧
      (isOneWord lexeme ∧ ofWord lexeme = .name spelling ∨
        ∃ digits word, Digits digits ∧ isOneWord word ∧ lexeme = digits.toList ++ word) := by
  cases h with
  | numbered whole one =>
      exact ⟨String.toList_ofList.symm, .inr ⟨_, _, whole, one, rfl⟩⟩
  | word one said =>
      refine ⟨?_, .inl ⟨one, said⟩⟩
      rw [← ofList_of_ofWord_eq_name said, String.toList_ofList]

theorem named_of_isOneWord {text : String} (one : isOneWord text.toList)
    (said : ofWord text.toList = .name text) : Named text := by
  obtain ⟨start, rest, htext, letter, run⟩ := exists_cons_of_isOneWord one
  have hstart := isWordChar_of_isWordStart letter
  constructor
  · rw [htext]
    exact List.forall_mem_cons.mpr ⟨hstart, run⟩
  · rw [htext] at one said
    refine ⟨start, rest, htext, isBlank_of_isWordChar hstart, fun after hafter => ?_⟩
    rw [next_of_isOneWord one hafter, said]

theorem named_of_numbered {text digits : String} {word : List Char} (whole : Digits digits)
    (one : isOneWord word) (htext : text.toList = digits.toList ++ word) : Named text := by
  obtain ⟨start, rest, rfl, letter, run⟩ := exists_cons_of_isOneWord one
  have hword : ∀ c ∈ start :: rest, isWordChar c :=
    List.forall_mem_cons.mpr ⟨isWordChar_of_isWordStart letter, run⟩
  have hspelling : String.ofList (digits.toList ++ start :: rest) = text := by
    rw [← htext, String.ofList_toList]
  constructor
  · rw [htext]
    exact List.forall_mem_append.mpr
      ⟨fun c hc => isWordChar_of_isDigit (whole.all c hc), hword⟩
  · cases hdigits : digits.toList with
    | nil => exact absurd hdigits whole.toList_ne_nil
    | cons c others =>
        have hc : c.isDigit := whole.all c (by simp [hdigits])
        refine ⟨c, others ++ start :: rest, by rw [htext, hdigits]; rfl, isBlank_of_isDigit hc, ?_⟩
        intro after hafter
        have hstart : (start :: rest).head?.any isWordStart := letter
        have hnumber := number_eq_name whole.all hstart hword hafter
        rw [hspelling, hdigits] at hnumber
        rw [next_eq_nextWord (isWordChar_of_isDigit hc), nextWord_of_isDigit hc,
          List.append_assoc]
        exact hnumber

theorem Lexeme.named {lexeme : List Char} {spelling : String} (h : Lexeme lexeme (.name spelling)) :
    Named spelling := by
  obtain ⟨rfl, ⟨one, said⟩ | ⟨digits, word, whole, one, htext⟩⟩ := h.name_cases
  · exact named_of_isOneWord one said
  · exact named_of_numbered whole one htext

/-- A name that is read again is a lexeme of itself. -/
theorem Named.lexeme {text : String} (h : Named text) : Lexeme text.toList (.name text) := by
  obtain ⟨c, rest, htext, -, hreread⟩ := h.reread
  obtain ⟨lexeme, hchars, hlexeme⟩ := exists_lexeme_of_next (hreread [] (stops_nil _))
  rw [List.append_nil, List.append_nil] at hchars
  rwa [htext, hchars]

theorem Named.scanChars_eq {name : String} (h : Named name) :
    scanChars name.toList = .ok [.name name] := by
  obtain ⟨c, rest, hname, hblank, hreread⟩ := h.reread
  have hnext := hreread [] (stops_nil _)
  rw [List.append_nil] at hnext
  rw [hname]
  exact scanChars_of_next hblank hnext

/-! ## Lexemes that stand alone -/

theorem number_of_digits {digits : String} (h : Digits digits) :
    number digits.toList = .ok (.integer digits, []) := by
  have htake : digits.toList.takeWhile Char.isDigit = digits.toList :=
    List.takeWhile_eq_self_iff.mpr h.all
  have hdrop : digits.toList.dropWhile Char.isDigit = [] := List.dropWhile_eq_nil_iff.mpr h.all
  rw [number_of_ne_point (by simp [hdrop]), htake, hdrop]
  simp

theorem number_of_decimal {digits places : String} (h : Digits digits) (hplaces : Digits places) :
    number (digits ++ "." ++ places).toList = .ok (.decimal (digits ++ "." ++ places), []) := by
  have hchars : (digits ++ "." ++ places).toList = digits.toList ++ '.' :: places.toList := by
    simp
  have hpoint : Stops Char.isDigit ('.' :: places.toList) := by
    intro c hc
    cases hc
    decide
  have htake : places.toList.takeWhile Char.isDigit = places.toList :=
    List.takeWhile_eq_self_iff.mpr hplaces.all
  have hdrop : places.toList.dropWhile Char.isDigit = [] :=
    List.dropWhile_eq_nil_iff.mpr hplaces.all
  have hsome : places.toList ≠ [] := by
    simpa using hplaces.some
  rw [hchars, number_of_point (hpoint.dropWhile_append h.all), hpoint.takeWhile_append h.all,
    htake, hdrop, ← hchars]
  simp [hsome, String.append_assoc]

theorem next_of_sign {sign : Char} (hsign : sign = '+' ∨ sign = '-') {line : List Char}
    (hdigit : line.head?.any Char.isDigit) : next sign line = signedNumber sign line := by
  rcases hsign with rfl | rfl
  · simp [next, nextWord, Symbol.single?, hdigit]
  · simp [next, nextWord, Symbol.single?, hdigit]

namespace Unsigned

variable {numeral : String} {make : String → Token}

theorem any_head? (h : Unsigned numeral make) : numeral.toList.head?.any Char.isDigit := by
  cases h with
  | integer whole => simpa using whole.any_head? []
  | decimal whole fraction =>
      rw [String.append_assoc, String.toList_append]
      exact whole.any_head? _

theorem number_eq (h : Unsigned numeral make) :
    number numeral.toList = .ok (make numeral, []) := by
  cases h with
  | integer whole => exact number_of_digits whole
  | decimal whole fraction => exact number_of_decimal whole fraction

theorem signedNumber_eq (h : Unsigned numeral make) (sign : Char) :
    signedNumber sign numeral.toList = .ok (make (sign.toString ++ numeral), []) := by
  have hnumber := h.number_eq
  cases h with
  | integer => rw [signedNumber, hnumber]
  | decimal => rw [signedNumber, hnumber]

/-- A number is read with its sign. -/
theorem scanChars_eq (h : Unsigned numeral make) {sign : String} (signed : sign ∈ signs) :
    scanChars (sign ++ numeral).toList = .ok [make (sign ++ numeral)] := by
  have hsigned {c : Char} (hc : c = '+' ∨ c = '-') :
      next c numeral.toList = .ok (make (c.toString ++ numeral), []) := by
    rw [next_of_sign hc h.any_head?, h.signedNumber_eq]
  rw [String.toList_append]
  fin_cases signed
  · have hdigit := h.any_head?
    have hnumber := h.number_eq
    cases hnumeral : numeral.toList with
    | nil => simp [hnumeral] at hdigit
    | cons c rest =>
        rw [hnumeral] at hnumber hdigit
        have hc : c.isDigit := hdigit
        have hnext : next c rest = .ok (make numeral, []) := by
          rw [next_eq_nextWord (isWordChar_of_isDigit hc), nextWord_of_isDigit hc, hnumber]
        simpa using scanChars_of_next (isBlank_of_isDigit hc) hnext
  · exact scanChars_of_next (by decide) (hsigned (.inl rfl))
  · exact scanChars_of_next (by decide) (hsigned (.inr rfl))

end Unsigned

/-- A text between two quotes that it does not contain. -/
theorem scanChars_quoted {quote : Char} (hquote : quote = '\'' ∨ quote = '"') {content : String}
    (hplain : Text.Plain content) (hlacks : quote ∉ content.toList) :
    scanChars (quote :: content.toList ++ [quote]) = .ok [text content] := by
  have hblank : Unicode.isBlank quote = false := by
    rcases hquote with rfl | rfl
    · decide
    · decide
  have hread : quotedText quote (content.toList ++ [quote]) = .ok (content.toList, []) :=
    quotedText_eq_ok_iff.mpr ⟨rfl, hlacks, hplain⟩
  have hnext : next quote (content.toList ++ [quote]) = .ok (text content, []) := by
    rw [next_of_quote hquote, hread]
    simp [Except.map]
  exact scanChars_of_next hblank hnext

/-- A lexeme that stands alone is read as the one token it is a lexeme of. -/
theorem Lexeme.scanChars_eq {lexeme : List Char} (h : Lexeme lexeme token) :
    scanChars lexeme = .ok [token] := by
  cases h with
  | symbol sign => cases sign <;> cbv
  | quoted either plain lacks => exact scanChars_quoted either plain lacks
  | integer signed whole => exact (Unsigned.integer whole).scanChars_eq signed
  | decimal signed whole fraction => exact (Unsigned.decimal whole fraction).scanChars_eq signed
  | numbered whole one =>
      have hname := named_of_numbered whole one String.toList_ofList
      have hscan := hname.scanChars_eq
      rwa [String.toList_ofList] at hscan
  | word one said =>
      obtain ⟨start, rest, rfl, letter, -⟩ := exists_cons_of_isOneWord one
      have hnext := next_of_isOneWord one (stops_nil _)
      rw [List.append_nil, said] at hnext
      exact scanChars_of_next (isBlank_of_isWordChar (isWordChar_of_isWordStart letter)) hnext

theorem lexeme_of_keyword (word : Keyword) : Lexeme word.spelling.toList (.keyword word) := by
  cases word <;> exact .word (by decide) (by decide)

theorem lexeme_of_boolean (value : Bool) : Lexeme (spellBoolean value).toList (.boolean value) := by
  cases value <;> exact .word (by decide) (by decide)

/-! ## Every token -/

/-- What holds of every token that is read from a line. -/
def Sound : Token → Prop
  | .name spelling => Named spelling
  | .text content => Text.Plain content
  | .integer numeral | .decimal numeral => Text.Plain numeral
  | .keyword _ | .symbol _ | .boolean _ => True

theorem plain_of_mem_signs {sign : String} (h : sign ∈ signs) : Text.Plain sign := by
  fin_cases h
  · exact Text.plain_of_all (by decide)
  · exact Text.plain_of_all (by decide)
  · exact Text.plain_of_all (by decide)

theorem plain_of_digits {digits : String} (h : Digits digits) : Text.Plain digits :=
  fun c hc => isControl_of_isDigit (h.all c hc)

theorem Lexeme.sound {lexeme : List Char} (h : Lexeme lexeme token) : token.Sound := by
  cases h with
  | symbol sign => trivial
  | quoted either plain lacks => exact plain
  | integer signed whole => exact plain_append (plain_of_mem_signs signed) (plain_of_digits whole)
  | decimal signed whole fraction =>
      have hpoint : Text.Plain "." := Text.plain_of_all (by decide)
      have hplaces := plain_append (plain_append (plain_of_digits whole) hpoint)
        (plain_of_digits fraction)
      exact plain_append (plain_of_mem_signs signed) hplaces
  | numbered whole one => exact named_of_numbered whole one String.toList_ofList
  | word one said =>
      rw [← said]
      exact ofWord_induction lexeme (fun _ => trivial) (fun _ => trivial)
        fun hword => (Lexeme.word one hword).named

/-- Every token of a line is sound. -/
theorem sound_of_scanChars {line : List Char} {tokens : List Token}
    (h : scanChars line = .ok tokens) : ∀ token ∈ tokens, token.Sound := by
  intro token htoken
  obtain ⟨lexeme, hlexeme⟩ := exists_lexeme_of_scanChars h token htoken
  exact hlexeme.sound

end Token

end Rowbase
