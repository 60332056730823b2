import Rowbase.Literal

/-!
# Conditions

A condition is a tree of comparisons between columns and literals, joined by AND and OR.
-/

namespace Rowbase

/-- How a field is compared with a literal. -/
inductive Comparator where
  | equal | notEqual | greater | less | atLeast | atMost
  /-- The field contains the literal's text. -/
  | like
  deriving DecidableEq, Repr

namespace Comparator

/-- A comparator as it is written. -/
def spelling : Comparator → String
  | equal => "=="
  | notEqual => "!="
  | greater => ">"
  | less => "<"
  | atLeast => ">="
  | atMost => "<="
  | like => "LIKE"

/-- Every comparator. -/
def all : List Comparator :=
  [equal, notEqual, greater, less, atLeast, atMost, like]

/-- The comparator with the given spelling. -/
def ofSpelling? (spelling : String) : Option Comparator :=
  all.find? fun comparator => comparator.spelling = spelling

/-- The comparator that a token is. -/
def ofToken? : Token → Option Comparator
  | .symbol .equal => some equal
  | .symbol .notEqual => some notEqual
  | .symbol .greater => some greater
  | .symbol .less => some less
  | .symbol .atLeast => some atLeast
  | .symbol .atMost => some atMost
  | .keyword .like => some like
  | _ => none

/-- What a comparator says of two things in a known order. -/
def holds : Comparator → Ordering → Bool
  | equal, order => order = .eq
  | notEqual, order => order ≠ .eq
  | greater, order => order = .gt
  | less, order => order = .lt
  | atLeast, order => order ≠ .lt
  | atMost, order => order ≠ .gt
  | like, _ => false

/-- What a comparator says of two things that can only be equal or different. -/
def holdsUnordered : Comparator → (same : Bool) → Bool
  | equal, same => same
  | notEqual, same => !same
  | _, _ => false

end Comparator

/-- A test on the fields of a row. -/
inductive Condition where
  | comparison (column : String) (comparator : Comparator) (literal : Literal)
  | and (left right : Condition)
  | or (left right : Condition)
  deriving DecidableEq, Repr

/-- The columns that a condition names, from left to right. -/
def Condition.columns : Condition → List String
  | comparison column _ _ => [column]
  | and left right | or left right => left.columns ++ right.columns

end Rowbase
