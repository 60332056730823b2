import Rowbase.Number.Shortest
import Rowbase.Text.Trim
import Rowbase.Token

/-!
# Literals

A literal is a value written in a command. Tables store text, so a literal reaches a row as
its field text; its kind matters only when a stored field is compared with it.
-/

namespace Rowbase

/-- A value as a command writes it. Numerals keep their sign and digits. -/
inductive Literal where
  | null
  | boolean (value : Bool)
  | integer (numeral : String)
  | decimal (numeral : String)
  | text (content : String)
  deriving DecidableEq, Repr

/-- The finite number that a stored field is read as in a numeric comparison, blanks around it
aside. -/
def fieldNumber? (field : String) : Option Binary64 :=
  (Decimal.read? (Text.trim field.toList)).bind Decimal.toBinary64?

namespace Literal

/-- The text that a row stores for a literal. -/
def field : Literal → String
  | null => "NULL"
  | boolean value => spellBoolean value
  | integer numeral | decimal numeral => numeral
  | text content => content

/-- Whether the literal is the word NULL. -/
def isNull : Literal → Bool
  | null => true
  | _ => false

/-- The content of a quoted text. -/
def content? : Literal → Option String
  | text content => some content
  | _ => none

/-- The number that a literal is in a numeric comparison. -/
def number? : Literal → Option Binary64
  | integer numeral | decimal numeral => fieldNumber? numeral
  | text content => fieldNumber? content
  | null | boolean _ => none

/-- A whole number as a literal. -/
def ofInt (n : Int) : Literal :=
  integer (toString n)

/-- A binary number as a literal in shortest digits. -/
def ofDatum (x : Binary64.Datum) : Literal :=
  decimal x.text

end Literal

end Rowbase
