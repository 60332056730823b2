import Rowbase.Unicode.Ranges

/-!
# Upper-case forms

Reserved words are ASCII, so of the upper-case form of a word only the part that is ASCII can
decide whether the word is reserved. Ten characters outside ASCII have an ASCII upper-case form;
all others stay outside ASCII and are kept as they are.
-/

namespace Rowbase.Unicode

/-- The upper-case form of a character wherever that form is ASCII, and otherwise the character. -/
def asciiUpper (c : Char) : List Char :=
  if isAscii c then [c.toUpper] else
  match c with
  | 'ß' => ['S', 'S']
  | 'ı' => ['I']
  | 'ſ' => ['S']
  | 'ﬀ' => ['F', 'F']
  | 'ﬁ' => ['F', 'I']
  | 'ﬂ' => ['F', 'L']
  | 'ﬃ' => ['F', 'F', 'I']
  | 'ﬄ' => ['F', 'F', 'L']
  | 'ﬅ' => ['S', 'T']
  | 'ﬆ' => ['S', 'T']
  | _ => [c]

end Rowbase.Unicode
