/-!
# Binary numbers of 64 bits

A finite number is a sign and a magnitude, counted in units of 2⁻¹⁰⁷⁴, the smallest positive
magnitude. Two numbers with 53 significant bits at most are compared exactly by comparing their
signed counts, so the order of the numbers is the order of the integers.
-/

namespace Rowbase

/-- A finite number: `units` counts multiples of 2⁻¹⁰⁷⁴. -/
structure Binary64 where
  negative : Bool
  units : Nat
  deriving DecidableEq, Repr

namespace Binary64

/-- How many units make one. -/
def unitsPerOne : Nat :=
  Nat.pow 2 1074

/-- The first count beyond the largest finite magnitude. -/
def limit : Nat :=
  Nat.pow 2 2098

/-- The count with its sign; both zeros count zero. -/
def value (x : Binary64) : Int :=
  if x.negative then -(x.units : Int) else x.units

/-- The distance of neighbouring magnitudes about a count: 53 bits are significant, and below the
smallest normal magnitude every count is a magnitude. -/
def spacing (units : Nat) : Nat :=
  Nat.pow 2 (Nat.log2 units - 52)

/-- The integer nearest to a quotient, of two equally near ones the even one. -/
def roundDiv (num den : Nat) : Nat :=
  let low := num / den
  let twice := 2 * (num % den)
  if twice < den then low
  else if den < twice then low + 1
  else if low % 2 = 0 then low else low + 1

/-- The count of the magnitude nearest to a quotient. -/
def roundUnits (num den : Nat) : Nat :=
  let step := spacing (num * unitsPerOne / den)
  roundDiv (num * unitsPerOne) (den * step) * step

/-- The number nearest to a signed quotient, unless that is beyond the finite ones. -/
def ofQuotient? (negative : Bool) (num den : Nat) : Option Binary64 :=
  let units := roundUnits num den
  if units < limit then some { negative, units } else none

/-- The 64 bits of a number: the sign, eleven bits of exponent and 52 of fraction. A count of
more than 53 bits is shifted down to 53; its top bit adds one to the exponent. -/
def bits (x : Binary64) : UInt64 :=
  let shift := Nat.log2 x.units - 52
  let magnitude := shift * Nat.pow 2 52 + x.units / Nat.pow 2 shift
  UInt64.ofNat (magnitude + if x.negative then Nat.pow 2 63 else 0)

/-- What 64 bits can stand for. -/
inductive Datum where
  | finite (x : Binary64)
  | infinite (negative : Bool)
  | notANumber
  deriving DecidableEq, Repr

/-- The datum that 64 bits stand for. -/
def Datum.ofBits (bits : UInt64) : Datum :=
  let negative := bits.toNat / Nat.pow 2 63 = 1
  let exponent := bits.toNat / Nat.pow 2 52 % Nat.pow 2 11
  let fraction := bits.toNat % Nat.pow 2 52
  if exponent = Nat.pow 2 11 - 1 then
    if fraction = 0 then infinite negative else notANumber
  else if exponent = 0 then finite { negative, units := fraction }
  else finite { negative, units := (Nat.pow 2 52 + fraction) * Nat.pow 2 (exponent - 1) }

end Binary64

end Rowbase
