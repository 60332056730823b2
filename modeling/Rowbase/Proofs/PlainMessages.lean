import Rowbase.Proofs.PlainTexts
import Rowbase.Proofs.TableErrors

/-!
# Plain messages

No message of an error has a control character, although many quote what stands in the line: a
character that cannot be shown is written by its code point, and names and numerals have none.
-/

namespace Rowbase

/-! ## Quoted characters -/

namespace Unicode

theorem isControl_of_isGraphic {c : Char} (h : isGraphic c) : isControl c = false := by
  have hbounds : (0x20 ≤ c.toNat ∧ c.toNat ≤ 0x7E) ∨ 0x9F < c.toNat := by
    unfold isGraphic at h
    split at h
    · left
      simpa using h
    · exact .inr (lt_of_covers (by decide +kernel) h)
  simp only [isControl, Bool.or_eq_false_iff, Bool.and_eq_false_iff, decide_eq_false_iff_not]
  omega

theorem isControl_digitChar {digit : Nat} (h : digit < 16) :
    isControl digit.digitChar = false := by
  interval_cases digit <;> decide

theorem isControl_of_mem_toDigits {n : Nat} {c : Char} (h : c ∈ Nat.toDigits 16 n) :
    isControl c = false := by
  induction n using Nat.strongRecOn with
  | ind n ih =>
      rw [Nat.toDigits_eq_if (by decide)] at h
      split at h
      next hlt =>
        rw [List.mem_singleton.mp h]
        exact isControl_digitChar hlt
      next hge =>
        rcases List.mem_append.mp h with hhigh | hlast
        · exact ih _ (Nat.div_lt_self (by omega) (by decide)) hhigh
        · rw [List.mem_singleton.mp hlast]
          exact isControl_digitChar (Nat.mod_lt _ (by decide))

end Unicode

namespace Text

theorem plain_toString_char {c : Char} (h : Unicode.isControl c = false) : Plain c.toString := by
  simpa [Plain] using h

theorem plain_codePoint (c : Char) : Plain (codePoint c) := by
  have hdigits : Plain (String.ofList (Nat.toDigits 16 c.toNat)) :=
    Token.plain_ofList fun _ => Unicode.isControl_of_mem_toDigits
  exact hdigits.between (by decide)

theorem plain_escaped (c : Char) : Plain (escaped c) := by
  unfold escaped
  split
  · exact plain_of_all (by decide)
  · exact plain_of_all (by decide)
  · exact plain_of_all (by decide)
  · exact plain_of_all (by decide)
  · exact plain_of_all (by decide)
  · exact plain_of_all (by decide)
  · split
    · exact plain_codePoint c
    next hshown =>
      apply plain_toString_char
      apply Unicode.isControl_of_isGraphic
      simp only [Bool.or_eq_true, Bool.not_eq_true', not_or, Bool.not_eq_false] at hshown
      exact hshown.2

theorem plain_quoted (c : Char) : Plain (quoted c) :=
  (plain_escaped c).between (by decide)

end Text

/-! ## Computations that fail plainly -/

section

variable {ε α : Type} {words : ε → String}

/-- If the computation fails, the words for its fault have no control character. -/
def FailsPlainly (words : ε → String) (result : Except ε α) : Prop :=
  ∀ fault, result = .error fault → Text.Plain (words fault)

theorem failsPlainly_ok (value : α) : FailsPlainly words (.ok value) :=
  failsOnly_ok value

theorem failsPlainly_error {fault : ε} (h : Text.Plain (words fault)) :
    FailsPlainly words (.error fault : Except ε α) :=
  failsOnly_error h

end

/-! ## Faults of lines without tokens -/

namespace Token

open Unicode

variable {line rest : List Char} {fault : ScanError}

theorem plain_control (c : Char) : Text.Plain (ScanError.control c).message :=
  (Text.plain_quoted c).between (by decide)

theorem plain_unrecognized (c : Char) : Text.Plain (ScanError.unrecognized c).message :=
  plain_append (Text.plain_of_all (by decide)) (Text.plain_quoted c)

theorem plain_malformedNumber {text : String} (h : Text.Plain text) :
    Text.Plain (ScanError.malformedNumber text).message :=
  h.between (by decide)

theorem failsPlainly_quotedText (quote : Char) (line : List Char) :
    FailsPlainly ScanError.message (quotedText quote line) := by
  intro fault h
  unfold quotedText at h
  simp only at h
  split at h
  · cases h
    exact plain_control _
  · split at h
    · cases h
      exact Text.plain_of_all (by decide)
    · simp at h

theorem failsPlainly_number (line : List Char) : FailsPlainly ScanError.message (number line) := by
  intro fault h
  unfold number at h
  simp only at h
  split at h
  next rest _ =>
    split at h
    · cases h
      apply plain_malformedNumber
      apply plain_ofList
      intro c hc
      rcases List.mem_append.mp hc with hdigit | hplace
      · exact isControl_of_isDigit (of_mem_takeWhile c hdigit)
      · rcases List.mem_cons.mp hplace with rfl | hplace
        · decide
        · exact isControl_of_isDigit (of_mem_takeWhile c hplace)
    · simp at h
  · split at h <;> simp at h

theorem failsPlainly_signedNumber {sign : Char} (hsign : isControl sign = false)
    {line : List Char} (hdigit : line.head?.any Char.isDigit) :
    FailsPlainly ScanError.message (signedNumber sign line) := by
  intro fault h
  unfold signedNumber at h
  split at h
  next hname =>
    cases h
    apply plain_malformedNumber
    obtain ⟨lexeme, -, hlexeme⟩ := exists_lexeme_of_number hdigit hname
    exact plain_append (Text.plain_toString_char hsign) hlexeme.named.plain
  · simp at h
  · simp at h
  · exact failsPlainly_number line fault h

theorem failsPlainly_nextWord (c : Char) (rest : List Char) :
    FailsPlainly ScanError.message (nextWord c rest) := by
  intro fault h
  unfold nextWord at h
  split at h
  · exact failsPlainly_quotedText c rest fault (map_eq_error_iff.mp h)
  · split at h
    next hsigned =>
      simp only [Bool.and_eq_true, Bool.or_eq_true, decide_eq_true_eq] at hsigned
      refine failsPlainly_signedNumber ?_ hsigned.2 fault h
      rcases hsigned.1 with rfl | rfl <;> decide
    · split at h
      · exact failsPlainly_number _ fault h
      · split at h
        · simp at h
        · cases h
          exact plain_unrecognized c

theorem failsPlainly_next (c : Char) (rest : List Char) :
    FailsPlainly ScanError.message (next c rest) := by
  intro fault h
  unfold next at h
  split at h
  · simp at h
  · split at h
    · simp at h
    · simp at h
    · simp at h
    · simp at h
    · cases h
      exact Text.plain_of_all (by decide)
    · exact failsPlainly_nextWord c rest fault h

theorem failsPlainly_scanChars (line : List Char) :
    FailsPlainly ScanError.message (scanChars line) := by
  intro fault h
  induction line using scanChars.induct with
  | case1 line hline => simp [scanChars_eq_nil hline] at h
  | case2 line c rest hline other hnext =>
      rw [scanChars_cons hline, hnext, error_bind] at h
      cases h
      exact failsPlainly_next c rest _ hnext
  | case3 line c rest hline token after hnext ih =>
      rw [scanChars_cons hline, hnext, ok_bind] at h
      exact ih (map_eq_error_iff.mp h)

end Token

/-! ## Errors of operations -/

theorem Error.plain_valueCount (expected found : Nat) :
    Text.Plain (valueCount expected found).message := by
  have hexpected : Text.Plain ("expected " ++ toString expected ++ " values but got ") :=
    (Table.plain_toString expected).between (by decide)
  exact Token.plain_append hexpected (Table.plain_toString found)

theorem Error.About.plain {names : List String} {error : Error} (h : About names error)
    (hnames : ∀ name ∈ names, Text.Plain name) : Text.Plain error.message := by
  cases h with
  | unknownTable mentioned => exact (hnames _ mentioned).between (by decide)
  | unknownColumn mentioned => exact (hnames _ mentioned).between (by decide)
  | tableExists mentioned => exact (hnames _ mentioned).between (by decide)
  | columnExists mentioned => exact (hnames _ mentioned).between (by decide)
  | identityColumn => exact Text.plain_of_all (by decide)
  | valueCount expected found => exact Error.plain_valueCount expected found

namespace Database

variable (database : Database)

/-- A change that fails fails plainly if the names it mentions are plain. -/
theorem failsPlainly_change {change : Change} (h : ∀ name ∈ change.mentioned, Text.Plain name) :
    FailsPlainly Error.message (database.change change) :=
  (database.failsOnly_change change).mono fun _ habout => habout.plain h

/-- A query that fails fails plainly if the names it mentions are plain. -/
theorem failsPlainly_query {query : Query} (h : ∀ name ∈ query.mentioned, Text.Plain name) :
    FailsPlainly Error.message (database.query query) :=
  (database.failsOnly_query query).mono fun _ habout => habout.plain h

end Database

end Rowbase
