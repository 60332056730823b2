import Rowbase.Unicode.Blank

/-!
# Blanks around a text
-/

namespace Rowbase.Text

/-- The text without the blanks that start it and those that end it. -/
def trim (text : List Char) : List Char :=
  (text.dropWhile Unicode.isBlank).reverse.dropWhile Unicode.isBlank |>.reverse

end Rowbase.Text
