import Rowbase.Number.Binary64

/-!
# Decimal numerals

A decimal numeral is a sign, digits with at most one point among them, and an exponent after
the letter `e`. `Decimal.read?` gives its exact value, and `Decimal.toBinary64?` the nearest
finite number.
-/

namespace Rowbase

/-- The exact value of a numeral: the digits as a whole number, times a power of ten. -/
structure Decimal where
  negative : Bool
  digits : Nat
  exponent : Int
  deriving DecidableEq, Repr

namespace Decimal

/-- The whole number that digits write, the most significant one first. -/
def ofDigits (digits : List Char) : Nat :=
  digits.foldl (fun n c => 10 * n + (c.toNat - '0'.toNat)) 0

/-- Takes a sign off the front; a missing one is a plus. -/
def takeSign : List Char → Bool × List Char
  | '-' :: rest => (true, rest)
  | '+' :: rest => (false, rest)
  | rest => (false, rest)

/-- The exponent that ends a numeral; a missing one is zero. -/
def readExponent? : List Char → Option Int
  | [] => some 0
  | mark :: rest =>
    let (negative, digits) := takeSign rest
    if (mark = 'e' || mark = 'E') && !digits.isEmpty && digits.all Char.isDigit then
      some (if negative then -(ofDigits digits : Int) else ofDigits digits)
    else none

/-- The digits after the point, if there is a point, and what follows them. -/
def takeFraction : List Char → List Char × List Char
  | '.' :: rest => (rest.takeWhile Char.isDigit, rest.dropWhile Char.isDigit)
  | rest => ([], rest)

/-- The value of a numeral. There must be a digit before or after the point. -/
def read? (numeral : List Char) : Option Decimal :=
  let (negative, unsigned) := takeSign numeral
  let whole := unsigned.takeWhile Char.isDigit
  let (fraction, rest) := takeFraction (unsigned.dropWhile Char.isDigit)
  if whole.isEmpty && fraction.isEmpty then none
  else (readExponent? rest).map fun exponent =>
    { negative, digits := ofDigits (whole ++ fraction), exponent := exponent - fraction.length }

/-- The finite number nearest to a decimal value. A value of 10³⁰⁹ or more is beyond them all,
and one below half a unit is nearest to zero; both are told from the exponent, so that no
power of ten is larger than the result needs. -/
def toBinary64? (d : Decimal) : Option Binary64 :=
  if d.digits = 0 then some { negative := d.negative, units := 0 }
  else if 309 ≤ d.exponent then none
  else if 0 ≤ d.exponent then
    Binary64.ofQuotient? d.negative (d.digits * Nat.pow 10 d.exponent.toNat) 1
  else
    let places := (-d.exponent).toNat
    if Nat.log2 d.digits + 1077 ≤ 3 * places then some { negative := d.negative, units := 0 }
    else Binary64.ofQuotient? d.negative d.digits (Nat.pow 10 places)

end Decimal

end Rowbase
