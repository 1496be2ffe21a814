import GranularBonds.Binary64

/-!
# Decimal numerals

A numeral is a sign, a coefficient and a power of ten.  Reading one as a
binary64 number rounds to the nearest, however long the numeral is and however
large its exponent.
-/

namespace GranularBonds

/-- A number written in decimal. -/
structure Numeral where
  negative : Bool
  coefficient : Nat
  /-- Power of ten that the coefficient is multiplied by. -/
  exponent : Int
  /-- Written with digits alone, without a point and without an exponent. -/
  integral : Bool
  deriving DecidableEq, Repr

namespace Numeral

/-- The value that a row of decimal digits writes. -/
def digitsValue (digits : List Char) : Nat :=
  digits.foldl (fun value digit => 10 * value + (digit.toNat - '0'.toNat)) 0

/-- Nearest binary64 number.  Exponents past every number of the format are
answered without computing a power of ten. -/
def toFloat (numeral : Numeral) : Float :=
  let magnitude : Float :=
    if numeral.coefficient == 0 then 0
    else if numeral.exponent > 400 then 1 / 0
    else if numeral.exponent < -(400 + numeral.coefficient.log2 : Int) then 0
    else Float.ofScientific numeral.coefficient (numeral.exponent < 0) numeral.exponent.natAbs
  if numeral.negative then -magnitude else magnitude

/-- The numeral of a natural number. -/
def ofNat (value : Nat) : Numeral := ⟨false, value, 0, true⟩

/-- The natural number below `limit` that a numeral of digits alone writes.  A
sign excludes it, even before zero. -/
def toNat? (limit : Nat) (numeral : Numeral) : Option Nat :=
  if numeral.integral && !numeral.negative && decide (numeral.coefficient < limit) then
    some numeral.coefficient
  else
    none

end Numeral

end GranularBonds
