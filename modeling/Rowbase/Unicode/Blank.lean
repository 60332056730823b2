import Rowbase.Unicode.Ranges

/-!
# Blank characters

The characters with the property White_Space, which separate words and may stand around a
number.
-/

namespace Rowbase.Unicode

/-- The blank characters outside ASCII. -/
def blankRanges : Ranges :=
  [(0x85, 0x85), (0xA0, 0xA0), (0x1680, 0x1680), (0x2000, 0x200A), (0x2028, 0x2029),
    (0x202F, 0x202F), (0x205F, 0x205F), (0x3000, 0x3000)]

example : blankRanges.length = 8 ∧ blankRanges.ascend := by decide +kernel

/-- A character is blank when it is a space, one of the five controls from tab to carriage
return, or stands in the table. -/
def isBlank (c : Char) : Bool :=
  if isAscii c then c = ' ' || (0x09 ≤ c.toNat && c.toNat ≤ 0x0D) else blankRanges.covers c

end Rowbase.Unicode
