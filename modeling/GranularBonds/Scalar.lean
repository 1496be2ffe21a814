/-!
# Scalars

The contact law is written once, for every number type that has the operations
below.  The program runs it on binary64 numbers; statements about exact
arithmetic read the same definitions over an ordered field with a square root.
No law is part of the class, so what is proved from it alone holds of rounded
arithmetic and of not-a-number too.
-/

namespace GranularBonds

/-- The numbers of the contact law: field operations, comparison, and the few
constants that the law names. -/
class Scalar (α : Type) extends
    Zero α, One α, NatCast α, Add α, Sub α, Mul α, Div α, Neg α, LE α, LT α where
  /-- Square root. -/
  sqrt : α → α
  /-- Absolute value. -/
  abs : α → α
  /-- Circumference of a circle of diameter one. -/
  pi : α
  /-- Least squared distance at which two centers are told apart. -/
  tiny : α
  /-- Neither infinite nor undefined. -/
  isFinite : α → Bool
  decLe : ∀ left right : α, Decidable (left ≤ right)
  decLt : ∀ left right : α, Decidable (left < right)

namespace Scalar

variable {α : Type} [Scalar α]

instance (left right : α) : Decidable (left ≤ right) := decLe left right

instance (left right : α) : Decidable (left < right) := decLt left right

/-- Two numbers that compare equal.  An undefined number is not even the same
as itself, and the two zeros are the same. -/
def Same (left right : α) : Prop := left ≤ right ∧ right ≤ left

instance (left right : α) : Decidable (Same left right) :=
  inferInstanceAs (Decidable (_ ∧ _))

/-- A number that is comparable and still not finite. -/
def isInfinite (value : α) : Bool :=
  !isFinite value && decide (value ≤ value)

/-- A number that can serve as a length, a mass or a timestep: finite and not
at or below zero. -/
def isUsable (value : α) : Bool :=
  isFinite value && !decide (value ≤ 0)

/-- The smaller of two numbers.  An undefined one gives way to the other, and
of two equal ones the left is taken. -/
def minimum (left right : α) : α :=
  if left ≤ left then if right < left then right else left else right

/-- The larger of two numbers.  An undefined one gives way to the other, and
of two equal ones the left is taken. -/
def maximum (left right : α) : α :=
  if left ≤ left then if left < right then right else left else right

/-- The number itself where it is above zero, and zero otherwise. -/
def nonnegativePart (value : α) : α :=
  if 0 < value then value else 0

end Scalar

end GranularBonds
