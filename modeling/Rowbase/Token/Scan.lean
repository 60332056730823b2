import Rowbase.Text.Quoted
import Rowbase.Token
import Rowbase.Unicode.Blank
import Rowbase.Unicode.Upper
import Rowbase.Unicode.Word

/-!
# Reading tokens

`Token.scan` reads a line from left to right, passing over blanks and taking the longest token that
starts at each place. Every step shortens the line (`Token.next_length_lt`), so reading ends.
-/

namespace Rowbase

/-- Why a line has no tokens. -/
inductive ScanError where
  /-- An exclamation mark without the equals sign that belongs to it. -/
  | lonelyExclamation
  /-- A control character between quotes. -/
  | control (c : Char)
  /-- A quote that is never closed. -/
  | unterminatedText
  | malformedNumber (text : String)
  /-- A character that starts no token. -/
  | unrecognized (c : Char)
  deriving DecidableEq, Repr

/-- The fault in words. -/
def ScanError.message : ScanError → String
  | lonelyExclamation => "expected '=' after '!'"
  | control c => "control character " ++ Text.quoted c ++ " in string literal"
  | unterminatedText => "unterminated string literal"
  | malformedNumber text => "malformed number '" ++ text ++ "'"
  | unrecognized c => "unrecognized character " ++ Text.quoted c

namespace Token

open Unicode

/-- A word is a truth value or a keyword if its upper-case form says so, and otherwise a name in the
spelling it has. -/
def ofWord (word : List Char) : Token :=
  let upper := String.ofList (word.flatMap asciiUpper)
  if upper = spellBoolean true then boolean true
  else if upper = spellBoolean false then boolean false
  else match Keyword.ofSpelling? upper with
    | some reserved => keyword reserved
    | none => name (String.ofList word)

/-- What is left of the line after one token of it. -/
abbrev Scanned := Except ScanError (Token × List Char)

/-- The symbol that ends with an equals sign if there is one, and otherwise the shorter one. -/
def orEqual (short long : Symbol) : List Char → Token × List Char
  | '=' :: rest => (symbol long, rest)
  | rest => (symbol short, rest)

/-- The text up to the closing quote. A control character in it is the first fault to be told. -/
def quotedText (quote : Char) (line : List Char) : Except ScanError (List Char × List Char) :=
  let content := line.takeWhile (· ≠ quote)
  match content.find? isControl with
  | some c => .error (.control c)
  | none =>
    match line.dropWhile (· ≠ quote) with
    | [] => .error .unterminatedText
    | _ :: rest => .ok (content, rest)

/-- An unsigned number, or a name such as `2nd` that starts with digits. -/
def number (line : List Char) : Scanned :=
  let digits := line.takeWhile Char.isDigit
  match line.dropWhile Char.isDigit with
  | '.' :: rest =>
    let places := rest.takeWhile Char.isDigit
    let after := rest.dropWhile Char.isDigit
    let written := String.ofList (digits ++ '.' :: places)
    if places.isEmpty || after.head?.any (fun c => c = '.' || isWordChar c) then
      .error (.malformedNumber written)
    else .ok (decimal written, after)
  | rest =>
    if rest.head?.any isWordStart then
      .ok (name (String.ofList (digits ++ rest.takeWhile isWordChar)), rest.dropWhile isWordChar)
    else .ok (integer (String.ofList digits), rest)

/-- A number after its sign; a name cannot have a sign. -/
def signedNumber (sign : Char) (line : List Char) : Scanned :=
  match number line with
  | .ok (name digits, _) => .error (.malformedNumber (sign.toString ++ digits))
  | .ok (integer digits, rest) => .ok (integer (sign.toString ++ digits), rest)
  | .ok (decimal digits, rest) => .ok (decimal (sign.toString ++ digits), rest)
  | other => other

/-- A name, a number or a quoted text, told apart by its first character. -/
def nextWord (c : Char) (rest : List Char) : Scanned :=
  if c = '\'' || c = '"' then
    (quotedText c rest).map fun found => (text (String.ofList found.1), found.2)
  else if (c = '+' || c = '-') && rest.head?.any Char.isDigit then signedNumber c rest
  else if c.isDigit then number (c :: rest)
  else if isWordStart c then
    .ok (ofWord (c :: rest.takeWhile isWordChar), rest.dropWhile isWordChar)
  else .error (.unrecognized c)

/-- The token that starts with `c`, and the rest of the line. -/
def next (c : Char) (rest : List Char) : Scanned :=
  match Symbol.single? c with
  | some sign => .ok (symbol sign, rest)
  | none =>
    match c, rest with
    | '=', rest => .ok (orEqual .assign .equal rest)
    | '>', rest => .ok (orEqual .greater .atLeast rest)
    | '<', rest => .ok (orEqual .less .atMost rest)
    | '!', '=' :: rest => .ok (symbol .notEqual, rest)
    | '!', _ => .error .lonelyExclamation
    | c, rest => nextWord c rest

/-- Dropping characters from the front leaves no more than there were. -/
theorem length_dropWhile_le {α : Type} (p : α → Bool) (l : List α) :
    (l.dropWhile p).length ≤ l.length :=
  (l.dropWhile_sublist p).length_le

theorem length_orEqual_le (short long : Symbol) (rest : List Char) :
    (orEqual short long rest).2.length ≤ rest.length := by
  unfold orEqual
  split <;> simp

theorem length_lt_of_quotedText {quote : Char} {line : List Char} {found : List Char × List Char}
    (h : quotedText quote line = .ok found) : found.2.length < line.length := by
  have hdrop := length_dropWhile_le (· ≠ quote) line
  simp only [quotedText] at h
  split at h
  · simp at h
  · split at h
    · simp at h
    next heq =>
      cases h
      rw [heq, List.length_cons] at hdrop
      exact hdrop

/-- A number that starts with a digit takes at least that digit. -/
theorem length_lt_of_number {c : Char} {rest : List Char} {scanned : Token × List Char}
    (hc : c.isDigit) (h : number (c :: rest) = .ok scanned) :
    scanned.2.length < (c :: rest).length := by
  have hdrop := length_dropWhile_le Char.isDigit rest
  simp only [number, List.dropWhile_cons, hc, if_true] at h
  simp only [List.length_cons]
  split at h
  next after heq =>
    have hafter := length_dropWhile_le Char.isDigit after
    split at h
    · simp at h
    · cases h
      simp only [heq, List.length_cons] at hdrop
      simp only
      omega
  · have hword := length_dropWhile_le isWordChar (rest.dropWhile Char.isDigit)
    split at h <;> cases h <;> simp only <;> omega

theorem length_lt_of_signedNumber {sign c : Char} {rest : List Char} {scanned : Token × List Char}
    (hc : c.isDigit) (h : signedNumber sign (c :: rest) = .ok scanned) :
    scanned.2.length < (c :: rest).length := by
  unfold signedNumber at h
  split at h
  · simp at h
  next hn =>
    cases h
    have := length_lt_of_number hc hn
    exact this
  next hn =>
    cases h
    have := length_lt_of_number hc hn
    exact this
  · exact length_lt_of_number hc h

theorem length_le_of_nextWord {c : Char} {rest : List Char} {scanned : Token × List Char}
    (h : nextWord c rest = .ok scanned) : scanned.2.length ≤ rest.length := by
  unfold nextWord at h
  split at h
  · cases hq : quotedText c rest with
    | error e => simp [hq, Except.map] at h
    | ok found =>
      simp only [hq, Except.map, Except.ok.injEq] at h
      subst h
      exact Nat.le_of_lt (length_lt_of_quotedText hq)
  · split at h
    next hsigned =>
      cases rest with
      | nil => simp at hsigned
      | cons d rest =>
        simp only [List.head?_cons, Option.any_some, Bool.and_eq_true] at hsigned
        exact Nat.le_of_lt (length_lt_of_signedNumber hsigned.2 h)
    · split at h
      next hdigit => exact Nat.le_of_lt_succ (length_lt_of_number hdigit h)
      · split at h
        · cases h
          exact length_dropWhile_le isWordChar rest
        · simp at h

/-- Every token takes at least the character it starts with. -/
theorem length_le_of_next {c : Char} {rest : List Char} {scanned : Token × List Char}
    (h : next c rest = .ok scanned) : scanned.2.length ≤ rest.length := by
  unfold next at h
  split at h
  · cases h
    exact Nat.le_refl _
  · split at h
    · cases h
      exact length_orEqual_le ..
    · cases h
      exact length_orEqual_le ..
    · cases h
      exact length_orEqual_le ..
    · cases h
      exact Nat.le_succ _
    · simp at h
    · exact length_le_of_nextWord h

/-- The tokens of a line, given its characters. -/
def scanChars (line : List Char) : Except ScanError (List Token) :=
  match _hline : line.dropWhile isBlank with
  | [] => .ok []
  | c :: rest =>
    match _hnext : next c rest with
    | .error fault => .error fault
    | .ok (token, rest) => (scanChars rest).map (token :: ·)
termination_by line.length
decreasing_by
  have hblank := length_dropWhile_le isBlank line
  have htoken := length_le_of_next _hnext
  simp only [_hline, List.length_cons] at hblank
  simp only at htoken
  omega

/-- The tokens of a line. -/
def scan (line : String) : Except ScanError (List Token) :=
  scanChars line.toList

/-! ## Where a token ends -/

example : scan "a<=-1.5" = .ok [name "a", symbol .atMost, decimal "-1.5"] := by cbv

example : scan "2nd" = .ok [name "2nd"] := by cbv

example : scan "1.x" = .error (.malformedNumber "1.") := by cbv

end Token

end Rowbase
