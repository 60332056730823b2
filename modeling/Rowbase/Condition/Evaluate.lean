import Rowbase.Condition.Compare
import Rowbase.Error

/-!
# Conditions on rows

A condition is judged against one row, given as the field of each column name. It is read from
left to right, and a name that decides nothing any more is not looked up.
-/

namespace Rowbase.Condition

/-- Whether a row, given by the field of each name, satisfies a condition. -/
def evaluate (field? : String → Option String) : Condition → Except Error Bool
  | comparison column comparator literal =>
    match field? column with
    | none => .error (.unknownColumn column)
    | some field => .ok (compareField field comparator literal)
  | and left right =>
    match left.evaluate field? with
    | .ok true => right.evaluate field?
    | decided => decided
  | or left right =>
    match left.evaluate field? with
    | .ok false => right.evaluate field?
    | decided => decided

/-- Refuses a condition with a name that is not known, naming the leftmost one. -/
def validate (known : String → Bool) (condition : Condition) : Except Error Unit :=
  match condition.columns.find? fun column => !known column with
  | some column => .error (.unknownColumn column)
  | none => .ok ()

end Rowbase.Condition
