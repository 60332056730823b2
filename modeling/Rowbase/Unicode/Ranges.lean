/-!
# Ranges of code points

A class of characters is given by its ASCII members, which are tested directly, and by a table of
inclusive code point ranges for all other members.
-/

namespace Rowbase.Unicode

/-- Inclusive ranges of code points, in ascending order. -/
abbrev Ranges := List (Nat × Nat)

/-- A character is covered when one of the ranges holds its code point. -/
def Ranges.covers (ranges : Ranges) (c : Char) : Bool :=
  ranges.any fun range => range.1 ≤ c.toNat && c.toNat ≤ range.2

/-- Every range ends before the next one starts. -/
def Ranges.ascend : Ranges → Bool
  | [] => true
  | [range] => range.1 ≤ range.2
  | range :: next :: rest => range.1 ≤ range.2 && range.2 < next.1 && ascend (next :: rest)

/-- The characters below U+0080. -/
def isAscii (c : Char) : Bool :=
  c.toNat < 0x80

end Rowbase.Unicode
