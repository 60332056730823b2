import Rowbase.Number.Decimal

/-!
# Shortest numerals

The numeral of a number has the fewest digits that read back as that number; of two numerals
of that many digits the nearer one is taken, and of two equally near ones the greater.
Magnitudes from 10⁻⁴ up to 10¹⁶ are written with a point, all others with an exponent.
-/

namespace Rowbase

namespace Decimal

/-- More places than the smallest positive magnitude has zeros after its point. -/
def scalePlaces : Nat :=
  345

/-- The power of ten just above a positive magnitude: its first digit stands one place lower. -/
def topPlace (units : Nat) : Int :=
  (Nat.toDigits 10 (units * Nat.pow 10 scalePlaces / Binary64.unitsPerOne)).length - scalePlaces

/-- A positive magnitude over a power of ten, as a quotient of whole numbers. -/
def overPower (units : Nat) (place : Int) : Nat × Nat :=
  (units * Nat.pow 10 (-place).toNat, Binary64.unitsPerOne * Nat.pow 10 place.toNat)

/-- The better of the two decimals with the given last place next to a magnitude, among those
that read back as that magnitude. -/
def nearest? (units : Nat) (place : Int) : Option Decimal :=
  let (num, den) := overPower units place
  let below : Decimal := { negative := false, digits := num / den, exponent := place }
  let above : Decimal := { below with digits := num / den + 1 }
  let reads (d : Decimal) := d.toBinary64? = some { negative := false, units }
  if reads below then
    if reads above ∧ den ≤ 2 * (num % den) then some above else some below
  else if reads above then some above else none

/-- The fewest digits that read back as a positive magnitude; seventeen always do. -/
def shortest (units : Nat) : Decimal :=
  let top := topPlace units
  ((List.range' 1 17).findSome? fun (count : Nat) => nearest? units (top - count)).getD
    { negative := false, digits := units, exponent := 0 }

/-- The digits without the zeros that end them. -/
def significant (digits : List Char) : List Char :=
  (digits.reverse.dropWhile (· = '0')).reverse

end Decimal

namespace Binary64

/-- The smallest magnitude from which on a point is written in place of an exponent: 10¹⁶. -/
def exponentFrom : Nat :=
  Nat.pow 10 16 * unitsPerOne

/-- A magnitude below 10⁻⁴ is written with an exponent. -/
def needsExponent (units : Nat) : Bool :=
  exponentFrom ≤ units || units * Nat.pow 10 4 < unitsPerOne

/-- A positive magnitude in shortest digits. -/
def magnitudeText (units : Nat) : String :=
  let decimal := Decimal.shortest units
  let all := Nat.toDigits 10 decimal.digits
  let digits := Decimal.significant all
  let point : Int := all.length + decimal.exponent
  let zeros (n : Int) := List.replicate n.toNat '0'
  String.ofList <|
    if needsExponent units then
      let places := digits.drop 1
      digits.take 1 ++ (if places.isEmpty then [] else '.' :: places)
        ++ 'e' :: (toString (point - 1)).toList
    else if point ≤ 0 then '0' :: '.' :: zeros (-point) ++ digits
    else
      let whole := digits.take point.toNat ++ zeros (point - digits.length)
      let places := digits.drop point.toNat
      whole ++ '.' :: (if places.isEmpty then ['0'] else places)

/-- A number in shortest digits. -/
def text (x : Binary64) : String :=
  (if x.negative then "-" else "") ++ if x.units = 0 then "0.0" else magnitudeText x.units

/-- A datum as text. -/
def Datum.text : Datum → String
  | finite x => x.text
  | infinite false => "inf"
  | infinite true => "-inf"
  | notANumber => "NaN"

/-! ## The ends of the two notations -/

example : ({ negative := false, units := 1 } : Binary64).text = "5e-324" := by decide +kernel

example : (Datum.ofBits 0x4341C37937E08000).text = "1e16" := by decide +kernel

example : (Datum.ofBits 0x4341C37937E07FFF).text = "9999999999999998.0" := by decide +kernel

example : (Datum.ofBits 0x3F1A36E2EB1C432D).text = "0.0001" := by decide +kernel

example : (Datum.ofBits 0x3F1A36E2EB1C432C).text = "9.999999999999999e-5" := by decide +kernel

example : (Datum.ofBits 0x8000000000000000).text = "-0.0" := by decide +kernel

end Binary64

end Rowbase
