import Mathlib
import GranularBonds.Proofs.ExactArithmetic

/-!
# Lengths and angles

In exact arithmetic the vectors of the contact law are those of Euclidean
space.  The scalar product is linear in its factors, a vector product stands at
right angles to its factors, and a length is zero for the zero vector only,
stretches with its vector and obeys the triangle inequality.
-/

namespace GranularBonds

variable {α : Type} [ExactScalar α]

namespace ExactScalar

/-- A square root is known by its square. -/
theorem sqrt_mul_self_eq {value : α} (nonnegative : 0 ≤ value) : sqrt (value * value) = value := by
  have squares : sqrt (value * value) * sqrt (value * value) = value * value :=
    sqrt_mul_self _ (mul_self_nonneg value)
  exact (mul_self_inj (sqrt_nonneg _) nonnegative).mp squares

end ExactScalar

namespace Vec3

/-! ## Stretching -/

@[simp] theorem mul_one (vector : Vec3 α) : vector * (1 : α) = vector := by
  ext <;> simp only [mul_x, mul_y, mul_z] <;> ring

@[simp] theorem mul_zero (vector : Vec3 α) : vector * (0 : α) = 0 := by
  ext <;> simp only [mul_x, mul_y, mul_z, zero_x, zero_y, zero_z] <;> ring

@[simp] theorem zero_mul (factor : α) : (0 : Vec3 α) * factor = 0 := by
  ext <;> simp only [mul_x, mul_y, mul_z, zero_x, zero_y, zero_z] <;> ring

theorem add_mul (left right : Vec3 α) (factor : α) :
    (left + right) * factor = left * factor + right * factor := by
  ext <;> simp only [mul_x, mul_y, mul_z, add_x, add_y, add_z] <;> ring

theorem mul_mul (vector : Vec3 α) (first second : α) :
    vector * first * second = vector * (first * second) := by
  ext <;> simp only [mul_x, mul_y, mul_z] <;> ring

/-! ## Scalar products -/

@[simp] theorem zero_dot (vector : Vec3 α) : (0 : Vec3 α).dot vector = 0 := by
  simp only [dot, zero_x, zero_y, zero_z]
  ring

theorem add_dot (left right vector : Vec3 α) :
    (left + right).dot vector = left.dot vector + right.dot vector := by
  simp only [dot, add_x, add_y, add_z]
  ring

theorem sub_dot (left right vector : Vec3 α) :
    (left - right).dot vector = left.dot vector - right.dot vector := by
  simp only [dot, sub_x, sub_y, sub_z]
  ring

theorem neg_dot (left right : Vec3 α) : (-left).dot right = -left.dot right := by
  simp only [dot, neg_x, neg_y, neg_z]
  ring

theorem mul_dot (left right : Vec3 α) (factor : α) :
    (left * factor).dot right = left.dot right * factor := by
  simp only [dot, mul_x, mul_y, mul_z]
  ring

theorem dot_comm (left right : Vec3 α) : left.dot right = right.dot left := by
  simp only [dot]
  ring

/-- A vector product stands at a right angle to its first factor. -/
@[simp] theorem cross_dot_self (left right : Vec3 α) : (left.cross right).dot left = 0 := by
  simp only [dot, cross]
  ring

/-- The identity of Lagrange, for the scalar product of two vector products. -/
theorem cross_dot_cross (first second left right : Vec3 α) :
    (first.cross second).dot (left.cross right) =
      first.dot left * second.dot right - second.dot left * first.dot right := by
  simp only [dot, cross]
  ring

/-! ## Lengths -/

theorem normSquared_nonneg (vector : Vec3 α) : 0 ≤ vector.normSquared :=
  add_nonneg (add_nonneg (mul_self_nonneg vector.x) (mul_self_nonneg vector.y))
    (mul_self_nonneg vector.z)

theorem norm_nonneg (vector : Vec3 α) : 0 ≤ vector.norm :=
  ExactScalar.sqrt_nonneg vector.normSquared

@[simp] theorem norm_mul_self (vector : Vec3 α) : vector.norm * vector.norm = vector.normSquared :=
  ExactScalar.sqrt_mul_self vector.normSquared vector.normSquared_nonneg

@[simp] theorem normSquared_zero : (0 : Vec3 α).normSquared = 0 := zero_dot 0

@[simp] theorem normSquared_eq_zero_iff {vector : Vec3 α} :
    vector.normSquared = 0 ↔ vector = 0 := by
  constructor
  · intro vanishes
    have x := mul_self_nonneg vector.x
    have y := mul_self_nonneg vector.y
    have z := mul_self_nonneg vector.z
    have sum : vector.x * vector.x + vector.y * vector.y + vector.z * vector.z = 0 := vanishes
    -- None of three squares that add up to zero is above zero.
    ext
    · exact mul_self_eq_zero.mp (by linarith)
    · exact mul_self_eq_zero.mp (by linarith)
    · exact mul_self_eq_zero.mp (by linarith)
  · intro same
    rw [same, normSquared_zero]

@[simp] theorem norm_eq_zero_iff {vector : Vec3 α} : vector.norm = 0 ↔ vector = 0 := by
  rw [← normSquared_eq_zero_iff, ← norm_mul_self, mul_self_eq_zero]

@[simp] theorem norm_zero : (0 : Vec3 α).norm = 0 := norm_eq_zero_iff.mpr rfl

@[simp] theorem norm_pos_iff {vector : Vec3 α} : 0 < vector.norm ↔ vector ≠ 0 := by
  rw [(norm_nonneg vector).lt_iff_ne', ne_eq, norm_eq_zero_iff]

/-- Stretching a vector stretches its length. -/
theorem norm_mul_of_nonneg (vector : Vec3 α) {factor : α} (nonnegative : 0 ≤ factor) :
    (vector * factor).norm = vector.norm * factor := by
  have squares : (vector * factor).normSquared =
      (vector.norm * factor) * (vector.norm * factor) := by
    calc (vector * factor).normSquared
        = vector.normSquared * (factor * factor) := by
          simp only [normSquared, dot, mul_x, mul_y, mul_z]
          ring
      _ = (vector.norm * vector.norm) * (factor * factor) := by rw [norm_mul_self]
      _ = (vector.norm * factor) * (vector.norm * factor) := by ring
  have length : 0 ≤ vector.norm * factor := mul_nonneg (norm_nonneg vector) nonnegative
  calc (vector * factor).norm
      = ExactScalar.sqrt (vector.norm * factor * (vector.norm * factor)) :=
        congrArg ExactScalar.sqrt squares
    _ = vector.norm * factor := ExactScalar.sqrt_mul_self_eq length

/-! ## Inequalities -/

/-- The inequality of Cauchy and Schwarz. -/
theorem dot_le_norm_mul_norm (left right : Vec3 α) : left.dot right ≤ left.norm * right.norm := by
  have lagrange := cross_dot_cross left right left right
  have nonnegative : 0 ≤ (left.cross right).dot (left.cross right) := normSquared_nonneg _
  have squares : left.dot right * left.dot right ≤
      left.norm * right.norm * (left.norm * right.norm) := by
    calc left.dot right * left.dot right
        ≤ left.normSquared * right.normSquared := by
          rw [lagrange, dot_comm right left] at nonnegative
          exact sub_nonneg.mp nonnegative
      _ = left.norm * left.norm * (right.norm * right.norm) := by
          rw [norm_mul_self, norm_mul_self]
      _ = left.norm * right.norm * (left.norm * right.norm) := by ring
  calc left.dot right
      ≤ |left.dot right| := le_abs_self _
    _ ≤ |left.norm * right.norm| := abs_le_iff_mul_self_le.mpr squares
    _ = left.norm * right.norm := abs_of_nonneg (mul_nonneg (norm_nonneg left) (norm_nonneg right))

/-- The triangle inequality. -/
theorem norm_add_le (left right : Vec3 α) : (left + right).norm ≤ left.norm + right.norm := by
  apply (mul_self_le_mul_self_iff (norm_nonneg _)
    (add_nonneg (norm_nonneg left) (norm_nonneg right))).mpr
  calc (left + right).norm * (left + right).norm
      = left.normSquared + 2 * left.dot right + right.normSquared := by
        rw [norm_mul_self]
        simp only [normSquared, dot, add_x, add_y, add_z]
        ring
    _ ≤ left.normSquared + 2 * (left.norm * right.norm) + right.normSquared := by
        linarith [dot_le_norm_mul_norm left right]
    _ = (left.norm + right.norm) * (left.norm + right.norm) := by
        rw [← norm_mul_self left, ← norm_mul_self right]
        ring

end Vec3

end GranularBonds
