import Rowbase.Unicode.Alphabetic
import Rowbase.Unicode.Numeric

/-!
# Words

A word is a run of letters, numerals and underscores.
-/

namespace Rowbase.Unicode

/-- A letter or an underscore, which can stand at the start of a word. -/
def isWordStart (c : Char) : Bool :=
  isAlphabetic c || c = '_'

/-- A letter, a numeral or an underscore, which can stand inside a word. -/
def isWordChar (c : Char) : Bool :=
  isAlphabetic c || isNumeric c || c = '_'

/-- A control character: the general category Cc, which has no member beyond U+009F. -/
def isControl (c : Char) : Bool :=
  c.toNat < 0x20 || (0x7F ≤ c.toNat && c.toNat ≤ 0x9F)

/-- What can start a word can also continue one. -/
theorem isWordChar_of_isWordStart {c : Char} (h : isWordStart c) : isWordChar c := by
  simp only [isWordStart, isWordChar, Bool.or_eq_true] at h ⊢
  exact h.elim (fun h => .inl (.inl h)) .inr

end Rowbase.Unicode
