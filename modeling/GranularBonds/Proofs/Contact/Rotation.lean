import Mathlib
import GranularBonds.Proofs.Contact.Reversal
import GranularBonds.Proofs.Vec3

/-!
# Rotation of a pair

No direction in space is special to the contact law.  A rotation keeps scalar
products and carries vector products along, and all that a visit computes is
put together from these.  So a pair that is rotated as a whole, the stored
displacement included, has the outcome of the pair as it stands with its
vectors rotated, and the same numbers and flags.  The law holds of one visit,
and therefore of whole histories.
-/

namespace GranularBonds

variable {α : Type} [ExactScalar α]

/-- A rotation of space: an orthogonal matrix of determinant one. -/
structure Rotation (α : Type) [ExactScalar α] where
  matrix : Matrix (Fin 3) (Fin 3) α
  orthogonal : matrix.transpose * matrix = 1
  proper : matrix.det = 1

/-- Space as it stands. -/
instance : Inhabited (Rotation α) := ⟨1, by simp, Matrix.det_one⟩

namespace Rotation

variable (rotation : Rotation α)

/-- A row of the matrix. -/
def row (axis : Fin 3) : Vec3 α :=
  ⟨rotation.matrix axis 0, rotation.matrix axis 1, rotation.matrix axis 2⟩

/-- A vector rotated: the product of the matrix with it. -/
def apply (vector : Vec3 α) : Vec3 α :=
  ⟨(rotation.row 0).dot vector, (rotation.row 1).dot vector, (rotation.row 2).dot vector⟩

/-! ## Sums and multiples -/

@[simp] theorem apply_zero : rotation.apply 0 = 0 := by
  ext <;> simp only [apply, Vec3.dot, Vec3.zero_x, Vec3.zero_y, Vec3.zero_z] <;> ring

@[simp] theorem apply_add (left right : Vec3 α) :
    rotation.apply (left + right) = rotation.apply left + rotation.apply right := by
  ext <;> simp only [apply, Vec3.dot, Vec3.add_x, Vec3.add_y, Vec3.add_z] <;> ring

@[simp] theorem apply_sub (left right : Vec3 α) :
    rotation.apply (left - right) = rotation.apply left - rotation.apply right := by
  ext <;> simp only [apply, Vec3.dot, Vec3.sub_x, Vec3.sub_y, Vec3.sub_z] <;> ring

@[simp] theorem apply_neg (vector : Vec3 α) :
    rotation.apply (-vector) = -rotation.apply vector := by
  ext <;> simp only [apply, Vec3.dot, Vec3.neg_x, Vec3.neg_y, Vec3.neg_z] <;> ring

@[simp] theorem apply_mul (vector : Vec3 α) (factor : α) :
    rotation.apply (vector * factor) = rotation.apply vector * factor := by
  ext <;> simp only [apply, Vec3.dot, Vec3.mul_x, Vec3.mul_y, Vec3.mul_z] <;> ring

/-! ## Products -/

/-- The columns of a rotation have length one and stand at right angles to each
other. -/
theorem column_dot_column (first second : Fin 3) :
    rotation.matrix 0 first * rotation.matrix 0 second +
        rotation.matrix 1 first * rotation.matrix 1 second +
        rotation.matrix 2 first * rotation.matrix 2 second =
      if first = second then 1 else 0 := by
  have entry := congrFun (congrFun rotation.orthogonal first) second
  rwa [Matrix.mul_apply, Fin.sum_univ_three, Matrix.one_apply] at entry

/-- As its determinant is one, a rotation is its own matrix of cofactors. -/
theorem transpose_eq_adjugate : rotation.matrix.transpose = rotation.matrix.adjugate := by
  calc rotation.matrix.transpose
      = rotation.matrix.transpose * (rotation.matrix * rotation.matrix.adjugate) := by
        rw [Matrix.mul_adjugate, rotation.proper, one_smul, mul_one]
    _ = rotation.matrix.adjugate := by rw [← mul_assoc, rotation.orthogonal, one_mul]

/-- The rows of a rotation, counted in a circle, are the vector products of the
other two. -/
theorem row_cross_row (axis : Fin 3) :
    (rotation.row (axis + 1)).cross (rotation.row (axis + 2)) = rotation.row axis := by
  have entry (column : Fin 3) :
      rotation.matrix axis column = rotation.matrix.adjugate column axis :=
    congrFun (congrFun rotation.transpose_eq_adjugate column) axis
  simp only [row, entry]
  rw [Matrix.adjugate_fin_three]
  -- One equation for each component of each of the three rows.
  ext <;> simp only [Vec3.cross] <;> fin_cases axis <;> simp <;> ring

/-- Rotations keep lengths and angles. -/
@[simp] theorem dot_apply (left right : Vec3 α) :
    (rotation.apply left).dot (rotation.apply right) = left.dot right := by
  have unit (axis : Fin 3) := (rotation.column_dot_column axis axis).trans (if_pos rfl)
  have xy := rotation.column_dot_column 0 1
  have xz := rotation.column_dot_column 0 2
  have yz := rotation.column_dot_column 1 2
  simp only [Fin.reduceEq, if_false] at xy xz yz
  simp only [Vec3.dot, apply, row]
  linear_combination left.x * right.x * unit 0 + left.y * right.y * unit 1 +
    left.z * right.z * unit 2 + (left.x * right.y + left.y * right.x) * xy +
    (left.x * right.z + left.z * right.x) * xz + (left.y * right.z + left.z * right.y) * yz

/-- Rotations keep the handedness of space. -/
@[simp] theorem cross_apply (left right : Vec3 α) :
    (rotation.apply left).cross (rotation.apply right) = rotation.apply (left.cross right) := by
  have component (axis : Fin 3) :
      (rotation.row (axis + 1)).dot left * (rotation.row (axis + 2)).dot right -
          (rotation.row (axis + 2)).dot left * (rotation.row (axis + 1)).dot right =
        (rotation.row axis).dot (left.cross right) := by
    rw [← Vec3.cross_dot_cross, row_cross_row]
  ext
  · exact component 0
  · exact component 1
  · exact component 2

@[simp] theorem normSquared_apply (vector : Vec3 α) :
    (rotation.apply vector).normSquared = vector.normSquared :=
  rotation.dot_apply vector vector

@[simp] theorem norm_apply (vector : Vec3 α) : (rotation.apply vector).norm = vector.norm :=
  congrArg ExactScalar.sqrt (rotation.normSquared_apply vector)

end Rotation

/-! ## Rotated states -/

/-- The pair with all its vectors rotated. -/
def Kinematics.rotated (rotation : Rotation α) (pair : Kinematics α) : Kinematics α :=
  { pair with
    delta := rotation.apply pair.delta
    velocity := rotation.apply pair.velocity
    firstSpin := rotation.apply pair.firstSpin
    secondSpin := rotation.apply pair.secondSpin }

/-- The record with its displacement rotated. -/
def ContactRecord.rotated (rotation : Rotation α) (record : ContactRecord α) : ContactRecord α :=
  { record with shear := rotation.apply record.shear }

/-- The contact with all its vectors rotated. -/
def ContactForce.rotated (rotation : Rotation α) (force : ContactForce α) : ContactForce α :=
  { force with
    force := rotation.apply force.force
    firstTorque := rotation.apply force.firstTorque
    secondTorque := rotation.apply force.secondTorque
    tangential := rotation.apply force.tangential }

/-- The outcome with all its vectors rotated. -/
def Outcome.rotated (rotation : Rotation α) : Outcome α → Outcome α
  | separated => separated
  | torn overlap => torn overlap
  | coincident => coincident
  | contact force => contact (force.rotated rotation)

/-- The tangential state with its vectors rotated. -/
def Tangential.rotated (rotation : Rotation α) (plane : Tangential α) : Tangential α :=
  ⟨rotation.apply plane.shear, rotation.apply plane.force, plane.sliding⟩

/-- The visit of the rotated pair. -/
def Visit.rotated (rotation : Rotation α) (visit : Visit α) : Visit α :=
  { visit with pair := visit.pair.rotated rotation }

/-! ## Equivariance of the parts of the force law -/

namespace ContactRecord

variable (rotation : Rotation α)

@[simp] theorem turned_apply (flipped : Bool) (shear : Vec3 α) :
    turned flipped (rotation.apply shear) = rotation.apply (turned flipped shear) := by
  cases flipped with
  | true => exact (rotation.apply_neg shear).symm
  | false => rfl

@[simp] theorem shearFor_rotated (record : ContactRecord α) (flipped : Bool) :
    (record.rotated rotation).shearFor flipped = rotation.apply (record.shearFor flipped) :=
  turned_apply rotation flipped record.shear

@[simp] theorem withShear_rotated (record : ContactRecord α) (flipped : Bool) (shear : Vec3 α) :
    (record.rotated rotation).withShear flipped (rotation.apply shear) =
      (record.withShear flipped shear).rotated rotation := by
  simp only [withShear, turned_apply, rotated]

@[simp] theorem touched_rotated (record : ContactRecord α) :
    (record.rotated rotation).touched = record.touched.rotated rotation := rfl

@[simp] theorem apart_rotated (record : ContactRecord α) :
    (record.rotated rotation).apart = record.apart.rotated rotation := by
  simp only [apart, rotated, Rotation.apply_zero]

@[simp] theorem torn_rotated (record : ContactRecord α) :
    (record.rotated rotation).torn = record.torn.rotated rotation := by
  cases cohesive : record.bond.isCohesive <;> simp [torn, isCohesive, rotated, released, cohesive]

@[simp] theorem sheared_rotated (record : ContactRecord α) :
    (record.rotated rotation).sheared = record.sheared.rotated rotation := by
  cases cohesive : record.bond.isCohesive <;>
    simp [sheared, isCohesive, rotated, released, cohesive]

end ContactRecord

namespace Kinematics

variable (rotation : Rotation α) (pair : Kinematics α)

@[simp] theorem distanceSquared_rotated :
    (pair.rotated rotation).distanceSquared = pair.distanceSquared :=
  rotation.normSquared_apply pair.delta

@[simp] theorem distance_rotated : (pair.rotated rotation).distance = pair.distance :=
  rotation.norm_apply pair.delta

@[simp] theorem radiusSum_rotated : (pair.rotated rotation).radiusSum = pair.radiusSum := rfl

@[simp] theorem inverseSquare_rotated :
    (pair.rotated rotation).inverseSquare = pair.inverseSquare := by
  simp only [inverseSquare, distanceSquared_rotated]

@[simp] theorem approach_rotated : (pair.rotated rotation).approach = pair.approach :=
  rotation.dot_apply pair.velocity pair.delta

@[simp] theorem overlap_rotated (initialGap : α) :
    (pair.rotated rotation).overlap initialGap = pair.overlap initialGap := by
  simp only [overlap, radiusSum_rotated, distance_rotated]

/-- A rotated pair is in contact when the pair is. -/
@[simp] theorem standing_rotated (record : ContactRecord α) :
    (pair.rotated rotation).standing (record.rotated rotation) = pair.standing record := by
  have alone : pair.standing (record.rotated rotation) = pair.standing record := rfl
  rw [← alone]
  simp only [standing, overlap_rotated, radiusSum_rotated, distance_rotated,
    distanceSquared_rotated]

@[simp] theorem slip_rotated : (pair.rotated rotation).slip = rotation.apply pair.slip := by
  simp only [slip, approach_rotated, inverseSquare_rotated, distance_rotated]
  simp only [rotated, ← Rotation.apply_mul, ← Rotation.apply_add, ← Rotation.apply_sub,
    Rotation.cross_apply]

@[simp] theorem tangentPart_rotated (shear : Vec3 α) :
    (pair.rotated rotation).tangentPart (rotation.apply shear) =
      rotation.apply (pair.tangentPart shear) := by
  have along : (rotation.apply shear).dot (pair.rotated rotation).delta = shear.dot pair.delta :=
    rotation.dot_apply shear pair.delta
  simp only [tangentPart, along, inverseSquare_rotated]
  simp only [rotated, ← Rotation.apply_mul, ← Rotation.apply_sub]

end Kinematics

namespace Material

variable (material : Material α) (rotation : Rotation α) (pair : Kinematics α)

@[simp] theorem normalRate_rotated (overlap : α) :
    material.normalRate (pair.rotated rotation) overlap = material.normalRate pair overlap := by
  simp only [normalRate, Kinematics.distance_rotated, Kinematics.approach_rotated,
    Kinematics.inverseSquare_rotated]
  rfl

@[simp] theorem shearLimit_rotated (cohesive : Bool) (normal : α) :
    material.shearLimit (pair.rotated rotation) cohesive normal =
      material.shearLimit pair cohesive normal := rfl

@[simp] theorem trialForce_rotated (shear : Vec3 α) :
    material.trialForce (pair.rotated rotation) (rotation.apply shear) =
      rotation.apply (material.trialForce pair shear) := by
  simp only [trialForce, Kinematics.slip_rotated, ← Rotation.apply_mul, ← Rotation.apply_add,
    ← Rotation.apply_neg]
  rfl

@[simp] theorem cutShear_rotated (shear : Vec3 α) (ratio : α) :
    material.cutShear (pair.rotated rotation) (rotation.apply shear) ratio =
      rotation.apply (material.cutShear pair shear ratio) := by
  simp only [cutShear, Kinematics.slip_rotated, ← Rotation.apply_mul, ← Rotation.apply_add,
    ← Rotation.apply_sub]
  split
  · rfl
  · rfl

theorem tangential_rotated (displacement : Vec3 α) (limit : α) :
    material.tangential (pair.rotated rotation) (rotation.apply displacement) limit =
      (material.tangential pair displacement limit).rotated rotation := by
  simp only [tangential, Kinematics.tangentPart_rotated, trialForce_rotated, Rotation.norm_apply,
    cutShear_rotated, ← Rotation.apply_mul]
  split
  · split
    · rfl
    · simp only [Tangential.rotated, Rotation.apply_zero]
  · rfl

theorem engage_rotated (record : ContactRecord α) (flipped : Bool) (timestep overlap : α) :
    material.engage (pair.rotated rotation) (record.rotated rotation) flipped timestep overlap =
      ((material.engage pair record flipped timestep overlap).1.rotated rotation,
        (material.engage pair record flipped timestep overlap).2.rotated rotation) := by
  have cohesive : (record.rotated rotation).isCohesive = record.isCohesive := rfl
  have displaced : (record.rotated rotation).shearFor flipped +
      (pair.rotated rotation).slip * timestep =
        rotation.apply (record.shearFor flipped + pair.slip * timestep) := by
    rw [ContactRecord.shearFor_rotated, Kinematics.slip_rotated, Rotation.apply_add,
      Rotation.apply_mul]
  simp only [engage, normalRate_rotated, Kinematics.distance_rotated, cohesive,
    shearLimit_rotated, displaced, tangential_rotated, Kinematics.radiusSum_rotated,
    Kinematics.distanceSquared_rotated, Tangential.rotated, ContactRecord.withShear_rotated,
    ContactRecord.touched_rotated, ContactRecord.sheared_rotated]
  generalize material.normalRate pair overlap = rate
  generalize material.tangential pair (record.shearFor flipped + pair.slip * timestep)
    (material.shearLimit pair record.isCohesive (rate * pair.distance)) = plane
  -- Flags decide which vectors and records are taken, and they are the same.
  generalize (plane.sliding && record.isCohesive) = sheared
  generalize (sheared && decide (pair.radiusSum * pair.radiusSum < pair.distanceSquared)) =
    separated
  cases sheared <;> cases separated <;>
    simp only [Bool.false_eq_true, if_false, if_true, ContactForce.rotated, Kinematics.rotated,
      Rotation.apply_zero, Rotation.apply_add, Rotation.apply_mul, Rotation.apply_neg,
      ← Rotation.cross_apply, ContactRecord.apart_rotated]

/-- A visit of the rotated pair leaves the rotated record, and sees the rotated
outcome. -/
theorem evaluate_rotated (record : ContactRecord α) (flipped : Bool) (timestep : α) :
    material.evaluate (pair.rotated rotation) (record.rotated rotation) flipped timestep =
      ((material.evaluate pair record flipped timestep).1.rotated rotation,
        (material.evaluate pair record flipped timestep).2.rotated rotation) := by
  simp only [evaluate, Kinematics.standing_rotated]
  cases pair.standing record with
  | separated => simp only [ContactRecord.apart_rotated, Outcome.rotated]
  | overstretched overlap =>
      simp only [ContactRecord.apart_rotated, ContactRecord.torn_rotated, Outcome.rotated]
  | coincident => rfl
  | engaged overlap =>
      simp only [engage_rotated]
      rfl

/-- The rotated history of the rotated pair. -/
theorem follow_rotated (record : ContactRecord α) (visits : List (Visit α)) :
    material.follow (record.rotated rotation) (visits.map (Visit.rotated rotation)) =
      (material.follow record visits).map
        (Prod.map (Outcome.rotated rotation) (ContactRecord.rotated rotation)) := by
  induction visits generalizing record with
  | nil => rfl
  | cons visit later ih =>
      simp only [List.map_cons, follow, Visit.rotated, evaluate_rotated]
      rw [ih]
      rfl

end Material

end GranularBonds
