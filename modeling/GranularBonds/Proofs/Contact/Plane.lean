import Mathlib
import GranularBonds.Proofs.Contact.Friction

/-!
# The contact plane

A vector lies in the contact plane of a pair when it stands at a right angle to
the line of centers.  The vectors of the plane are closed under all that the
force law does to displacements, the slip of the surfaces is one of them, and a
displacement is brought among them before its force is computed.  So whatever
the record holds at first, the displacement that a contact leaves and its
tangential force lie in the plane, and the rest of its force is normal to it.
-/

namespace GranularBonds

variable {α : Type} [ExactScalar α]

namespace Kinematics

/-- A vector lies in the contact plane. -/
def InPlane (pair : Kinematics α) (vector : Vec3 α) : Prop := vector.dot pair.delta = 0

namespace InPlane

variable {pair : Kinematics α} {left right vector : Vec3 α}

theorem zero : pair.InPlane 0 := Vec3.zero_dot pair.delta

theorem add (first : pair.InPlane left) (second : pair.InPlane right) :
    pair.InPlane (left + right) := by
  rw [InPlane, Vec3.add_dot, first, second, add_zero]

theorem sub (first : pair.InPlane left) (second : pair.InPlane right) :
    pair.InPlane (left - right) := by
  rw [InPlane, Vec3.sub_dot, first, second, sub_zero]

theorem neg (inside : pair.InPlane vector) : pair.InPlane (-vector) := by
  rw [InPlane, Vec3.neg_dot, inside, neg_zero]

theorem mul (inside : pair.InPlane vector) (factor : α) : pair.InPlane (vector * factor) := by
  rw [InPlane, Vec3.mul_dot, inside, zero_mul]

theorem turned (inside : pair.InPlane vector) (flipped : Bool) :
    pair.InPlane (ContactRecord.turned flipped vector) := by
  cases flipped with
  | true => exact inside.neg
  | false => exact inside

end InPlane

variable {pair : Kinematics α}

/-- A pair whose centers do not coincide divides by its squared distance. -/
theorem distanceSquared_mul_inverseSquare (apart : pair.distanceSquared ≠ 0) :
    pair.distanceSquared * pair.inverseSquare = 1 :=
  mul_one_div_cancel apart

/-- What is left of a vector without its part along the line of centers lies
in the contact plane. -/
theorem tangentPart_inPlane (apart : pair.distanceSquared ≠ 0) (vector : Vec3 α) :
    pair.InPlane (pair.tangentPart vector) := by
  have along : pair.delta.dot pair.delta = pair.distanceSquared := rfl
  calc (pair.tangentPart vector).dot pair.delta
      = vector.dot pair.delta -
          pair.delta.dot pair.delta * (vector.dot pair.delta * pair.inverseSquare) := by
        rw [tangentPart, Vec3.sub_dot, Vec3.mul_dot]
    _ = vector.dot pair.delta -
          vector.dot pair.delta * (pair.distanceSquared * pair.inverseSquare) := by
        rw [along]
        ring
    _ = 0 := by rw [distanceSquared_mul_inverseSquare apart, mul_one, sub_self]

/-- A vector of the contact plane has no part along the line of centers. -/
theorem tangentPart_of_inPlane {vector : Vec3 α} (inside : pair.InPlane vector) :
    pair.tangentPart vector = vector := by
  have none : vector.dot pair.delta = 0 := inside
  rw [tangentPart, none, zero_mul, Vec3.mul_zero, sub_zero]

/-- The surfaces slip in the contact plane. -/
theorem slip_inPlane (apart : pair.distanceSquared ≠ 0) : pair.InPlane pair.slip :=
  -- The straight part is the tangent part of the velocity.
  (tangentPart_inPlane apart pair.velocity).add (Vec3.cross_dot_self _ _)

end Kinematics

namespace Material

variable {material : Material α} {pair : Kinematics α}

theorem trialForce_inPlane (apart : pair.distanceSquared ≠ 0) {shear : Vec3 α}
    (inside : pair.InPlane shear) : pair.InPlane (material.trialForce pair shear) :=
  ((inside.mul _).add ((Kinematics.slip_inPlane apart).mul _)).neg

theorem cutShear_inPlane (apart : pair.distanceSquared ≠ 0) {shear : Vec3 α}
    (inside : pair.InPlane shear) (ratio : α) :
    pair.InPlane (material.cutShear pair shear ratio) := by
  have damper := (Kinematics.slip_inPlane apart).mul
    (pair.mass * material.slipDamping / material.tangentialStiffness)
  unfold cutShear
  split
  case isTrue => exact ((inside.add damper).mul ratio).sub damper
  case isFalse => exact inside.mul ratio

/-- However the limit acts, displacement and force stay in the contact
plane. -/
theorem Limited.inPlane {displacement : Vec3 α} {limit : α} {plane : Tangential α}
    (limited : material.Limited pair displacement limit plane)
    (apart : pair.distanceSquared ≠ 0) :
    pair.InPlane plane.shear ∧ pair.InPlane plane.force := by
  have shear := Kinematics.tangentPart_inPlane apart displacement
  have force : pair.InPlane (material.trial pair displacement) := trialForce_inPlane apart shear
  cases limited with
  | held => exact ⟨shear, force⟩
  | cut => exact ⟨cutShear_inPlane apart shear _, force.mul _⟩
  | slack => exact ⟨shear, .zero⟩

/-- A contact leaves its displacement in the contact plane, exerts its
tangential force in it, and has its normal force across it. -/
theorem Contact.inPlane {record after : ContactRecord α} {flipped : Bool} {timestep : α}
    {force : ContactForce α}
    (contact : material.Contact pair record flipped timestep force after) :
    pair.InPlane after.shear ∧ pair.InPlane force.tangential ∧
      (force.separated = false → force.force.dot pair.delta = force.normal * pair.distance) := by
  have apart := (Kinematics.distanceSquared_pos_of_engaged contact.engaged).ne'
  have limited : material.Limited pair (record.displacement pair flipped timestep) force.limit
      (material.plane pair record flipped timestep force.limit) :=
    material.tangential_limited pair _ force.limit
  obtain ⟨shear, plane⟩ := limited.inPlane apart
  have tangential : pair.InPlane force.tangential := by
    rw [contact.tangential]
    split
    · exact .zero
    · exact plane
  refine ⟨?_, tangential, ?_⟩
  · rw [contact.shear]
    split
    · exact .zero
    · exact shear.turned flipped
  · intro together
    have central : force.force =
        pair.delta * material.normalRate pair force.overlap + force.tangential := by
      rw [contact.total, together]
      rfl
    have across : force.tangential.dot pair.delta = 0 := tangential
    have square : pair.delta.dot pair.delta = pair.distance * pair.distance :=
      (Vec3.norm_mul_self pair.delta).symm
    rw [central, Vec3.add_dot, Vec3.mul_dot, across, add_zero, square, contact.normal]
    ring

end Material

end GranularBonds
