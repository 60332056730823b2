import Rowbase.Condition
import Rowbase.Name

/-!
# Comparing a field with a literal

Rows hold text, so the kind of the literal decides how a field is read: as a number, as text,
or as a word that is equal or not.
-/

namespace Rowbase

/-- Finite numbers are ordered as their signed counts are. -/
def Binary64.compare (x y : Binary64) : Ordering :=
  Ord.compare x.value y.value

/-- Two fields in numeric order if both are numbers. -/
def numericOrder? (field other : String) : Option Ordering :=
  match fieldNumber? field, fieldNumber? other with
  | some x, some y => some (x.compare y)
  | _, _ => none

/-- Two texts in the order of their code points. -/
def textOrder (a b : String) : Ordering :=
  if a < b then .lt else if a = b then .eq else .gt

/-- Whether one text occurs in another as a run of characters. -/
def Text.occursIn (part : List Char) : List Char → Bool
  | [] => part.isEmpty
  | c :: rest => part.isPrefixOf (c :: rest) || occursIn part rest

/-- Whether a field stands in the given relation to a literal. Fields that are no numbers
differ from every number, two texts always have an order, and a truth value or NULL has none.
-/
def compareField (field : String) (comparator : Comparator) (literal : Literal) : Bool :=
  match comparator, literal with
  | .like, literal => Text.occursIn literal.field.toList field.toList
  | comparator, .integer numeral | comparator, .decimal numeral =>
    match numericOrder? field numeral with
    | some order => comparator.holds order
    | none => comparator.holdsUnordered false
  | comparator, .text content =>
    comparator.holds ((numericOrder? field content).getD (textOrder field content))
  | comparator, .boolean value => comparator.holdsUnordered (Name.Same field (spellBoolean value))
  | comparator, .null => comparator.holdsUnordered (field = "NULL")

end Rowbase
