import GranularBonds.Scalar

/-!
# Vectors of three components

Positions, velocities, spins, forces and torques.  All operations act
component by component, in the order in which a sum of three terms is written.
-/

namespace GranularBonds

/-- A vector in space. -/
@[ext] structure Vec3 (α : Type) where
  x : α
  y : α
  z : α

namespace Vec3

variable {α : Type} [Scalar α]

instance : Zero (Vec3 α) := ⟨⟨0, 0, 0⟩⟩

instance : Add (Vec3 α) :=
  ⟨fun left right => ⟨left.x + right.x, left.y + right.y, left.z + right.z⟩⟩

instance : Sub (Vec3 α) :=
  ⟨fun left right => ⟨left.x - right.x, left.y - right.y, left.z - right.z⟩⟩

instance : Neg (Vec3 α) := ⟨fun vector => ⟨-vector.x, -vector.y, -vector.z⟩⟩

/-- A vector stretched by a number, which stands on the right. -/
instance : HMul (Vec3 α) α (Vec3 α) :=
  ⟨fun vector factor => ⟨vector.x * factor, vector.y * factor, vector.z * factor⟩⟩

/-- Scalar product. -/
def dot (left right : Vec3 α) : α :=
  left.x * right.x + left.y * right.y + left.z * right.z

/-- Vector product. -/
def cross (left right : Vec3 α) : Vec3 α :=
  ⟨left.y * right.z - left.z * right.y,
   left.z * right.x - left.x * right.z,
   left.x * right.y - left.y * right.x⟩

/-- Scalar product of a vector with itself. -/
def normSquared (vector : Vec3 α) : α := vector.dot vector

/-- Euclidean length. -/
def norm (vector : Vec3 α) : α := Scalar.sqrt vector.normSquared

@[simp] theorem zero_x : (0 : Vec3 α).x = 0 := rfl

@[simp] theorem zero_y : (0 : Vec3 α).y = 0 := rfl

@[simp] theorem zero_z : (0 : Vec3 α).z = 0 := rfl

@[simp] theorem add_x (left right : Vec3 α) : (left + right).x = left.x + right.x := rfl

@[simp] theorem add_y (left right : Vec3 α) : (left + right).y = left.y + right.y := rfl

@[simp] theorem add_z (left right : Vec3 α) : (left + right).z = left.z + right.z := rfl

@[simp] theorem sub_x (left right : Vec3 α) : (left - right).x = left.x - right.x := rfl

@[simp] theorem sub_y (left right : Vec3 α) : (left - right).y = left.y - right.y := rfl

@[simp] theorem sub_z (left right : Vec3 α) : (left - right).z = left.z - right.z := rfl

@[simp] theorem neg_x (vector : Vec3 α) : (-vector).x = -vector.x := rfl

@[simp] theorem neg_y (vector : Vec3 α) : (-vector).y = -vector.y := rfl

@[simp] theorem neg_z (vector : Vec3 α) : (-vector).z = -vector.z := rfl

@[simp] theorem mul_x (vector : Vec3 α) (factor : α) :
    (vector * factor).x = vector.x * factor := rfl

@[simp] theorem mul_y (vector : Vec3 α) (factor : α) :
    (vector * factor).y = vector.y * factor := rfl

@[simp] theorem mul_z (vector : Vec3 α) (factor : α) :
    (vector * factor).z = vector.z * factor := rfl

end Vec3

end GranularBonds
