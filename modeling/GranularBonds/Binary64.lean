import GranularBonds.Scalar

/-!
# Binary64 numbers

The numbers that the program runs on, and their reading as exact multiples of
powers of two, on which all decimal text rests.
-/

namespace GranularBonds

instance : Scalar Float where
  zero := 0
  one := 1
  natCast := Float.ofNat
  le := (· ≤ ·)
  lt := (· < ·)
  sqrt := Float.sqrt
  abs := Float.abs
  pi := 3.141592653589793
  tiny := Float.ofBits 0x0010000000000000
  isFinite := Float.isFinite
  decLe := fun left right => inferInstanceAs (Decidable (left ≤ right))
  decLt := fun left right => inferInstanceAs (Decidable (left < right))

/-- A nonnegative multiple of a power of two, as the format holds it. -/
structure Dyadic64 where
  mantissa : Nat
  exponent : Int
  /-- The next smaller number of the format is only half as far away as the
  next larger one. -/
  lopsided : Bool
  deriving Repr

/-- What a number of the format stands for. -/
inductive Reading64 where
  | undefined
  | infinite (negative : Bool)
  | finite (negative : Bool) (magnitude : Dyadic64)
  deriving Repr

/-- Read the sign, exponent and fraction fields of a number. -/
def Reading64.ofFloat (value : Float) : Reading64 :=
  let bits : Nat := value.toBits.toNat
  let negative := bits / Nat.pow 2 63 == 1
  let scale : Nat := bits / Nat.pow 2 52 % Nat.pow 2 11
  let fraction : Nat := bits % Nat.pow 2 52
  if scale == Nat.pow 2 11 - 1 then
    if fraction == 0 then .infinite negative else .undefined
  else if scale == 0 then
    .finite negative ⟨fraction, -1074, false⟩
  else
    .finite negative
      ⟨Nat.pow 2 52 + fraction, (scale : Int) - 1075, fraction == 0 && scale > 1⟩

end GranularBonds
