import Rowbase.Unicode.Extending
import Rowbase.Unicode.Graphic

/-!
# Quoted characters

A character named in a message stands between single quotes, and one that could not be read there is
written by its code point.
-/

namespace Rowbase.Text

/-- The code point of a character in lower-case hexadecimal, between braces. -/
def codePoint (c : Char) : String :=
  "\\u\x7b" ++ String.ofList (Nat.toDigits 16 c.toNat) ++ "\x7d"

/-- A character as it stands between single quotes. -/
def escaped (c : Char) : String :=
  match c with
  | '\x00' => "\\0"
  | '\t' => "\\t"
  | '\r' => "\\r"
  | '\n' => "\\n"
  | '\\' => "\\\\"
  | '\'' => "\\'"
  | _ => if Unicode.isExtending c || !Unicode.isGraphic c then codePoint c else c.toString

/-- A character between single quotes. -/
def quoted (c : Char) : String :=
  "'" ++ escaped c ++ "'"

example : quoted '\t' = "'\\t'" ∧ quoted '"' = "'\"'" := by decide +kernel

example : quoted '\x04' = "'\\u\x7b4\x7d'" ∧ quoted '\u200b' = "'\\u\x7b200b\x7d'" := by
  decide +kernel

example : quoted 'é' = "'é'" := by decide +kernel

end Rowbase.Text
