import Mathlib
import GranularBonds.Vec3

/-!
# Exact arithmetic

The contact law read without rounding: its numbers are those of an ordered
field with a square root.  Over such numbers vectors form a commutative group,
and all products change their sign with their factors, which is what the laws
of reversal and of order-independent sums rest on.  The real numbers are one
such field.
-/

namespace GranularBonds

/-- The numbers of exact arithmetic: an ordered field with a square root, and
positive constants in the places where the contact law names them. -/
class ExactScalar (α : Type) extends Field α, LinearOrder α, IsStrictOrderedRing α where
  sqrt : α → α
  sqrt_nonneg : ∀ value, 0 ≤ sqrt value
  sqrt_mul_self : ∀ value, 0 ≤ value → sqrt value * sqrt value = value
  pi : α
  pi_pos : 0 < pi
  tiny : α
  tiny_pos : 0 < tiny

/-- The operations of the contact law, read exactly.  Every number is finite
and comparable. -/
instance ExactScalar.toScalar {α : Type} [ExactScalar α] : Scalar α where
  zero := 0
  one := 1
  natCast := Nat.cast
  add := (· + ·)
  sub := (· - ·)
  mul := (· * ·)
  div := (· / ·)
  neg := (- ·)
  le := (· ≤ ·)
  lt := (· < ·)
  sqrt := ExactScalar.sqrt
  abs := (|·|)
  pi := ExactScalar.pi
  tiny := ExactScalar.tiny
  isFinite := fun _ => true
  decLe := fun left right => inferInstanceAs (Decidable (left ≤ right))
  decLt := fun left right => inferInstanceAs (Decidable (left < right))

/-- Real numbers, with the least normal number of binary64 as the bound below
which two centers coincide. -/
noncomputable instance : ExactScalar ℝ where
  sqrt := Real.sqrt
  sqrt_nonneg := Real.sqrt_nonneg
  sqrt_mul_self := fun _ nonnegative => Real.mul_self_sqrt nonnegative
  pi := Real.pi
  pi_pos := Real.pi_pos
  tiny := 2 ^ (-1022 : ℤ)
  tiny_pos := by positivity

variable {α : Type} [ExactScalar α]

namespace Scalar

/-- Without undefined numbers the smaller of two is the minimum of the
order. -/
theorem minimum_eq_min (left right : α) : minimum left right = min left right := by
  simp only [minimum]
  rw [if_pos (le_refl left)]
  split
  case isTrue below => exact (min_eq_right below.le).symm
  case isFalse above => exact (min_eq_left (not_lt.mp above)).symm

theorem maximum_eq_max (left right : α) : maximum left right = max left right := by
  simp only [maximum]
  rw [if_pos (le_refl left)]
  split
  case isTrue below => exact (max_eq_right below.le).symm
  case isFalse above => exact (max_eq_left (not_lt.mp above)).symm

theorem minimum_comm (left right : α) : minimum left right = minimum right left := by
  rw [minimum_eq_min, minimum_eq_min, min_comm]

/-- Every number above zero can serve as a length, a mass or a timestep. -/
theorem isUsable_of_pos {value : α} (positive : 0 < value) : isUsable value = true := by
  have above : ¬value ≤ 0 := not_le.mpr positive
  simp only [isUsable, above]
  rfl

end Scalar

namespace Vec3

/-- Vectors under addition. -/
instance : AddCommGroup (Vec3 α) where
  add_assoc first second third := by ext <;> simp only [add_x, add_y, add_z] <;> ring
  zero_add vector := by ext <;> simp only [add_x, add_y, add_z, zero_x, zero_y, zero_z] <;> ring
  add_zero vector := by ext <;> simp only [add_x, add_y, add_z, zero_x, zero_y, zero_z] <;> ring
  nsmul := nsmulRec
  zsmul := zsmulRec
  neg_add_cancel vector := by
    ext <;> simp only [add_x, add_y, add_z, neg_x, neg_y, neg_z, zero_x, zero_y, zero_z] <;> ring
  add_comm first second := by ext <;> simp only [add_x, add_y, add_z] <;> ring
  sub_eq_add_neg first second := by
    ext <;> simp only [add_x, add_y, add_z, sub_x, sub_y, sub_z, neg_x, neg_y, neg_z] <;> ring

@[simp] theorem neg_dot_neg (left right : Vec3 α) : (-left).dot (-right) = left.dot right := by
  simp only [dot, neg_x, neg_y, neg_z]
  ring

@[simp] theorem normSquared_neg (vector : Vec3 α) : (-vector).normSquared = vector.normSquared :=
  neg_dot_neg vector vector

@[simp] theorem norm_neg (vector : Vec3 α) : (-vector).norm = vector.norm := by
  simp only [norm, normSquared_neg]

@[simp] theorem neg_mul (vector : Vec3 α) (factor : α) : -vector * factor = -(vector * factor) := by
  ext <;> simp only [mul_x, mul_y, mul_z, neg_x, neg_y, neg_z] <;> ring

@[simp] theorem neg_cross (left right : Vec3 α) : (-left).cross right = -left.cross right := by
  ext <;> simp only [cross, neg_x, neg_y, neg_z] <;> ring

@[simp] theorem cross_neg (left right : Vec3 α) : left.cross (-right) = -left.cross right := by
  ext <;> simp only [cross, neg_x, neg_y, neg_z] <;> ring

@[simp] theorem cross_zero (vector : Vec3 α) : vector.cross 0 = 0 := by
  ext <;> simp only [cross, zero_x, zero_y, zero_z] <;> ring

end Vec3

end GranularBonds
