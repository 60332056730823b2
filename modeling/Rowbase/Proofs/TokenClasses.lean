import Rowbase.Proofs.LetterCase

/-!
# What tokens are made of

The scanner takes one token after the other from the front of a line, at least one character for
each, until only blanks are left or no token stands there. Each token has a text of its class.
A database therefore has a name that can stand for a file: the file lies in the folder itself,
and two databases share one only if their names differ in nothing but the case of letters.
-/

namespace Rowbase

namespace Unicode

/-! ## Upper-casing in full -/

/-- An upper-casing of characters that, as far as it is ASCII, is the one that words are compared
by. -/
def UpperCases (upper : Char → List Char) : Prop :=
  ∀ c, (∀ d ∈ upper c, isAscii d) → upper c = asciiUpper c

/-- The part of the table that the scanner uses is one. -/
theorem upperCases_asciiUpper : UpperCases asciiUpper :=
  fun _ _ => rfl

theorem asciiUpper_of_isDigit {c : Char} (h : c.isDigit) : asciiUpper c = [c] := by
  have hdigit := isDigit_iff.mp h
  have hupper : c.toUpper = c := by
    unfold Char.toUpper
    split
    next hsmall =>
      have hlow := UInt32.le_iff_toNat_le.mp hsmall.1
      rw [Char.toNat_val] at hlow
      have : 97 ≤ c.toNat := hlow
      omega
    · rfl
  simp [asciiUpper, isAscii_of_isDigit h, hupper]

end Unicode

namespace Token

open Unicode

/-! ## Words that are no names -/

/-- The spellings of keywords and truth values. -/
def reserved : List String :=
  Keyword.all.map Keyword.spelling ++ [spellBoolean true, spellBoolean false]

/-- A word is a name unless its upper-case form is reserved. -/
theorem ofWord_eq_name_iff {word : List Char} {text : String} :
    ofWord word = .name text ↔
      String.ofList word = text ∧ String.ofList (word.flatMap asciiUpper) ∉ reserved := by
  have hfind : Keyword.ofSpelling? (String.ofList (word.flatMap asciiUpper)) = none ↔
      String.ofList (word.flatMap asciiUpper) ∉ Keyword.all.map Keyword.spelling := by
    simp [Keyword.ofSpelling?]
  simp only [reserved, List.mem_append, not_or, ← hfind, List.mem_cons, List.not_mem_nil,
    or_false]
  unfold ofWord
  simp only
  split
  next htrue => simp [htrue]
  next htrue =>
    split
    next hfalse => simp [hfalse]
    next hfalse =>
      split
      next reserved hkeyword => simp [hkeyword]
      next hnone => simp [hnone, htrue, hfalse]

theorem isAscii_of_mem_reserved {word : String} (h : word ∈ reserved) :
    ∀ d ∈ word.toList, isAscii d := by
  have hall : reserved.all fun word => word.toList.all isAscii := by decide
  exact List.all_eq_true.mp (List.all_eq_true.mp hall word h)

theorem head_of_mem_reserved {word : String} (h : word ∈ reserved) :
    word.toList.head?.all fun c => !c.isDigit := by
  have hall : reserved.all fun word => word.toList.head?.all fun c => !c.isDigit := by decide
  exact List.all_eq_true.mp hall word h

/-- If the ASCII part of an upper-case form is not reserved, nor is the whole form. -/
theorem notMem_reserved_of_upperCases {upper : Char → List Char} (hupper : UpperCases upper)
    {word : List Char} (h : String.ofList (word.flatMap asciiUpper) ∉ reserved) :
    String.ofList (word.flatMap upper) ∉ reserved := by
  intro hmem
  have hascii := isAscii_of_mem_reserved hmem
  rw [String.toList_ofList] at hascii
  have hsame : word.flatMap upper = word.flatMap asciiUpper :=
    List.flatMap_congr fun c hc =>
      hupper c fun d hd => hascii d (List.mem_flatMap.mpr ⟨c, hc, hd⟩)
  exact h (hsame ▸ hmem)

/-! ## The class of a token -/

/-- What the name of a database, a table or a column is made of. -/
structure IsName (text : String) : Prop where
  wordChars : ∀ c ∈ text.toList, isWordChar c
  start : ∃ c rest, text.toList = c :: rest ∧ (c.isDigit ∨ isWordStart c)
  noNumeral : ∃ c ∈ text.toList, ¬c.isDigit
  unreserved : ∀ upper, UpperCases upper → String.ofList (text.toList.flatMap upper) ∉ reserved

/-- What the text of a token is made of. -/
def InClass : Token → Prop
  | .keyword word => word.spelling ∈ Keyword.all.map Keyword.spelling
  | .name spelling => IsName spelling
  | .text content => Text.Plain content
  | .integer numeral => ∃ sign ∈ signs, ∃ digits, Digits digits ∧ numeral = sign ++ digits
  | .decimal numeral =>
    ∃ sign ∈ signs, ∃ digits places, Digits digits ∧ Digits places ∧
      numeral = sign ++ (digits ++ "." ++ places)
  | .symbol sign =>
    sign.spelling ∈ ["(", ")", ",", ";", "*", "=", "==", ">", ">=", "<", "<=", "!="]
  | .boolean value => spellBoolean value ∈ ["TRUE", "FALSE"]

theorem isName_of_ofWord {word : List Char} {text : String} (one : isOneWord word)
    (said : ofWord word = .name text) : IsName text := by
  obtain ⟨rfl, hreserved⟩ := ofWord_eq_name_iff.mp said
  obtain ⟨start, rest, rfl, letter, run⟩ := exists_cons_of_isOneWord one
  constructor
  · rw [String.toList_ofList]
    exact List.forall_mem_cons.mpr ⟨isWordChar_of_isWordStart letter, run⟩
  · exact ⟨start, rest, String.toList_ofList, .inr letter⟩
  · exact ⟨start, by simp, by simp [isDigit_of_isWordStart letter]⟩
  · intro upper hupper
    rw [String.toList_ofList]
    exact notMem_reserved_of_upperCases hupper hreserved

/-- No reserved word starts with a digit, so a name that does is told from all of them. -/
theorem isName_of_numbered {digits : String} {word : List Char} (whole : Digits digits)
    (one : isOneWord word) : IsName (String.ofList (digits.toList ++ word)) := by
  obtain ⟨start, rest, rfl, letter, run⟩ := exists_cons_of_isOneWord one
  have hhead := whole.toList_ne_nil
  have hall := whole.all
  cases hdigits : digits.toList with
  | nil => exact absurd hdigits hhead
  | cons c others =>
      rw [hdigits] at hall
      have hc := hall c (.head _)
      constructor
      · rw [String.toList_ofList]
        refine List.forall_mem_append.mpr ⟨fun d hd => isWordChar_of_isDigit (hall d hd), ?_⟩
        exact List.forall_mem_cons.mpr ⟨isWordChar_of_isWordStart letter, run⟩
      · exact ⟨c, others ++ start :: rest, String.toList_ofList, .inl hc⟩
      · exact ⟨start, by simp, by simp [isDigit_of_isWordStart letter]⟩
      · intro upper hupper
        rw [String.toList_ofList]
        apply notMem_reserved_of_upperCases hupper
        intro hmem
        have hfirst := head_of_mem_reserved hmem
        simp [asciiUpper_of_isDigit hc, hc] at hfirst

/-- What is a lexeme of a token makes the token one of its class. -/
theorem Lexeme.inClass {lexeme : List Char} {token : Token} (h : Lexeme lexeme token) :
    token.InClass := by
  cases h with
  | symbol sign => cases sign <;> simp [InClass, Symbol.spelling]
  | quoted either plain lacks => exact plain
  | @integer sign digits signed whole => exact ⟨sign, signed, digits, whole, rfl⟩
  | @decimal sign digits places signed whole fraction =>
      exact ⟨sign, signed, digits, places, whole, fraction, rfl⟩
  | numbered whole one => exact isName_of_numbered whole one
  | word one said =>
      rw [← said]
      refine ofWord_induction lexeme ?_ ?_ (isName_of_ofWord one)
      · intro value
        cases value <;> simp [InClass, spellBoolean]
      · exact fun reserved => List.mem_map_of_mem reserved.mem_all

/-! ## Reading from the front of a line -/

/-- Tokens that are read one after the other from the front of a line, and what they leave. -/
inductive Reads : List Char → List Token → List Char → Prop where
  | none (line : List Char) : Reads line [] line
  | more {line rest after left : List Char} {c : Char} {token : Token} {tokens : List Token}
      (start : line.dropWhile isBlank = c :: rest) (read : next c rest = .ok (token, after))
      (others : Reads after tokens left) : Reads line (token :: tokens) left

/-- Where reading ends, and what it has come to: only blanks are left, or no token stands behind
them. -/
inductive Ends (tokens : List Token) : List Char → Except ScanError (List Token) → Prop where
  | blank {left : List Char} (done : left.dropWhile isBlank = []) : Ends tokens left (.ok tokens)
  | fault {left rest : List Char} {c : Char} {fault : ScanError}
      (start : left.dropWhile isBlank = c :: rest) (refused : next c rest = .error fault) :
      Ends tokens left (.error fault)

variable {line left rest after : List Char} {token : Token} {tokens : List Token}

theorem Ends.cons {outcome : Except ScanError (List Token)} (h : Ends tokens left outcome)
    (token : Token) : Ends (token :: tokens) left (outcome.map (token :: ·)) := by
  cases h with
  | blank done => exact .blank done
  | fault start refused => exact .fault start refused

/-- Reading comes to an end on every line, and the scan is what it has come to. -/
theorem exists_reads (line : List Char) :
    ∃ tokens left, Reads line tokens left ∧ Ends tokens left (scanChars line) := by
  induction line using scanChars.induct with
  | case1 line hline =>
      rw [scanChars_eq_nil hline]
      exact ⟨[], line, .none line, .blank hline⟩
  | case2 line c rest hline fault hfault =>
      rw [scanChars_cons hline, hfault, error_bind]
      exact ⟨[], line, .none line, .fault hline hfault⟩
  | case3 line c rest hline token after hnext ih =>
      obtain ⟨tokens, left, hreads, hends⟩ := ih
      rw [scanChars_cons hline, hnext, ok_bind]
      exact ⟨token :: tokens, left, .more hline hnext hreads, hends.cons token⟩

/-- One token takes characters from the front of what is left. -/
theorem exists_taken_of_next {c : Char} (h : next c rest = .ok (token, after)) :
    ∃ taken, taken ≠ [] ∧ c :: rest = taken ++ after := by
  obtain ⟨lexeme, hchars, hlexeme⟩ := exists_lexeme_of_next h
  exact ⟨lexeme, hlexeme.ne_nil, hchars⟩

/-- Any number of tokens take at least as many characters from the front of the line. -/
theorem Reads.exists_taken (h : Reads line tokens left) :
    ∃ taken, tokens.length ≤ taken.length ∧ line = taken ++ left := by
  induction h with
  | none line => exact ⟨[], Nat.le_refl _, rfl⟩
  | @more line rest after left c token tokens start read others ih =>
      obtain ⟨lexeme, hsome, hchars⟩ := exists_taken_of_next read
      obtain ⟨taken, hlength, rfl⟩ := ih
      have hline := List.takeWhile_append_dropWhile (p := isBlank) (l := line)
      refine ⟨line.takeWhile isBlank ++ (lexeme ++ taken), ?_, ?_⟩
      · have := List.length_pos_of_ne_nil hsome
        simp only [List.length_cons, List.length_append]
        omega
      · rw [List.append_assoc, List.append_assoc, ← hchars, ← start, hline]

end Token

/-! ## The files of databases -/

/-- The database that a command names. -/
def Command.database? : Command → Option String
  | use database | createDatabase database | dropDatabase database => some database
  | change _ | query _ => none

theorem Command.named_of_database? {line : String} {command : Command} {database : String}
    (h : Command.ofLine line = .ok command) (hnames : command.database? = some database) :
    Token.Named database := by
  have hsound := Command.sound_of_ofLine h
  cases command with
  | use name | createDatabase name | dropDatabase name =>
      cases hnames
      exact hsound
  | change made => cases hnames
  | query query => cases hnames

/-- What is read again as a name is of the class of names. -/
theorem Token.isName_of_named {name : String} (h : Token.Named name) : Token.IsName name :=
  h.lexeme.inClass

namespace Storage

/-- The database has one file, and that lies in the folder itself, where the file system takes names
of its length. -/
structure Confined (database : String) : Prop where
  file : fileName database = Name.key database ++ ".json"
  some : Name.key database ≠ ""
  noSeparator : '/' ∉ (Name.key database).toList ∧ '\\' ∉ (Name.key database).toList
  noDot : '.' ∉ (Name.key database).toList
  place : ∀ folder : Folder, folder.locate (fileName database) =
    if Folder.nameLimit < (fileName database).utf8ByteSize then .error .refused
    else .ok (fileName database)

theorem confined_of_named {database : String} (h : Token.Named database) : Confined database := by
  have hword : ∀ c ∈ (Name.key database).toList, Unicode.isWordChar c := by
    intro c hc
    rw [Name.toList_key, List.mem_map] at hc
    obtain ⟨d, hd, rfl⟩ := hc
    rw [Unicode.isWordChar_toLower]
    exact h.wordChars d hd
  have hlacks {c : Char} (hc : Unicode.isWordChar c = false) :
      c ∉ (Name.key database).toList := by
    intro hmem
    simp [hword c hmem] at hc
  constructor
  · rfl
  · obtain ⟨c, rest, hchars, -⟩ := h.reread
    intro hempty
    have hlength := congrArg String.toList hempty
    rw [Name.toList_key, hchars] at hlength
    simp at hlength
  · exact ⟨hlacks (by decide), hlacks (by decide)⟩
  · exact hlacks (by decide)
  · exact locate_fileName (Name.simple_of_named h)

end Storage

namespace Token

/-- The scan takes tokens from the front of a line, one or more characters for each and none from
behind the line, until blanks or a fault are left. What it has read then is of its class; and a
command that was read so names a database whose file lies in the folder, and is the file of no
name with another key. -/
theorem scan_in_classes (line : String) :
    (∃ tokens left, Reads line.toList tokens left ∧ Ends tokens left (scan line)) ∧
      (∀ tokens left, Reads line.toList tokens left →
        ∃ taken, tokens.length ≤ taken.length ∧ line.toList = taken ++ left) ∧
      (∀ c rest token after, next c rest = .ok (token, after) →
        ∃ taken, taken ≠ [] ∧ c :: rest = taken ++ after) ∧
      (∀ tokens, scan line = .ok tokens → ∀ token ∈ tokens, token.InClass) ∧
      ∀ command database, Command.ofLine line = .ok command →
        command.database? = some database →
          IsName database ∧ Storage.Confined database ∧
            ∀ other, Storage.fileName other = Storage.fileName database ↔
              Name.key other = Name.key database := by
  refine ⟨exists_reads line.toList, fun _ _ => Reads.exists_taken,
    fun _ _ _ _ => exists_taken_of_next, ?_, ?_⟩
  · intro tokens hscan token hmem
    obtain ⟨lexeme, hlexeme⟩ := exists_lexeme_of_scanChars hscan token hmem
    exact hlexeme.inClass
  · intro command database hread hnames
    have hnamed := Command.named_of_database? hread hnames
    exact ⟨isName_of_named hnamed, Storage.confined_of_named hnamed,
      fun other => ⟨Storage.key_eq_of_fileName_eq, Storage.fileName_congr⟩⟩

/-- A database with a name that starts with a digit and has letters outside ASCII. -/
theorem scan_in_classes_of_numbered :
    Command.ofLine "CREATE DATABASE 2Nd_É;" = .ok (.createDatabase "2Nd_É") ∧
      IsName "2Nd_É" ∧ "2ND_É" ∉ reserved ∧
      (∀ folder : Folder, folder.locate "2nd_É.json" = .ok "2nd_É.json") ∧
      Storage.fileName "2nD_É" = "2nd_É.json" ∧ Storage.fileName "2nd_é" ≠ "2nd_É.json" := by
  have hread : Command.ofLine "CREATE DATABASE 2Nd_É;" = .ok (.createDatabase "2Nd_É") := by
    decide +kernel
  have hfile : Storage.fileName "2Nd_É" = "2nd_É.json" := by decide +kernel
  obtain ⟨-, -, -, -, hnames⟩ := scan_in_classes "CREATE DATABASE 2Nd_É;"
  obtain ⟨hname, hconfined, hdistinct⟩ := hnames _ _ hread rfl
  rw [hfile] at hdistinct
  have hunreserved := hname.unreserved _ Unicode.upperCases_asciiUpper
  have hupper : String.ofList ("2Nd_É".toList.flatMap Unicode.asciiUpper) = "2ND_É" := by
    decide +kernel
  refine ⟨hread, hname, hupper ▸ hunreserved, fun folder => ?_, ?_, ?_⟩
  · rw [← hfile, hconfined.place folder, hfile, if_neg (by decide)]
  · exact (hdistinct "2nD_É").mpr (by cbv)
  · exact mt (hdistinct "2nd_é").mp (by decide +kernel)

end Token

end Rowbase
