import GranularBonds.Contact.Kinematics
import GranularBonds.Contact.Record

/-!
# The force law

What a pair does in one step.  First it is decided whether the pair is in
contact at all: a pair without a bond is not when its surfaces are apart, and
a bonded pair tears when it is pulled as far as its bond allows.  A pair in
contact is pushed apart by a spring on its overlap, measured from the overlap
at which it bonded, and by a damper.  The tangential displacement builds up
from step to step, stays in the contact plane, and pulls back by a spring of
its own; its force is limited by friction and, while the bond holds, by the
shear strength of the bond.  A bond that reaches this limit is sheared off.
-/

namespace GranularBonds

/-- Forces and torques of one contact. -/
structure ContactForce (α : Type) where
  /-- Force on the first particle; the second has its opposite. -/
  force : Vec3 α
  firstTorque : Vec3 α
  secondTorque : Vec3 α
  /-- The part of the force in the contact plane. -/
  tangential : Vec3 α
  /-- The part of the force along the line of centers, positive if it pushes
  the particles apart. -/
  normal : α
  /-- Limit of the tangential force. -/
  limit : α
  /-- Overlap beyond the one at which the pair bonded. -/
  overlap : α
  /-- Whether the tangential force reached its limit. -/
  sliding : Bool
  /-- Whether the bond was sheared off. -/
  sheared : Bool
  /-- Whether the surfaces were apart when the bond was sheared off, so that
  nothing is left of the contact. -/
  separated : Bool

/-- What a pair did in a step. -/
inductive Outcome (α : Type) where
  /-- Out of contact. -/
  | separated
  /-- The bond tore at this overlap. -/
  | torn (overlap : α)
  /-- The centers coincide, so there is no line of centers to push along. -/
  | coincident
  | contact (force : ContactForce α)

/-- How a pair is found when its step begins. -/
inductive Standing (α : Type) where
  | separated
  | overstretched (overlap : α)
  | coincident
  | engaged (overlap : α)

namespace Outcome

variable {α : Type}

/-- The force of a pair in contact. -/
def force? : Outcome α → Option (ContactForce α)
  | contact force => some force
  | _ => none

end Outcome

variable {α : Type} [Scalar α]

namespace Kinematics

/-- Overlap of a pair beyond the one at which it bonded. -/
def overlap (pair : Kinematics α) (initialGap : α) : α :=
  pair.radiusSum - pair.distance - initialGap

/-- How a pair with a given past is found. -/
def standing (pair : Kinematics α) (record : ContactRecord α) : Standing α :=
  let overlap := pair.overlap record.initialGap
  if !record.isCohesive && decide (pair.radiusSum < pair.distance) then .separated
  else if overlap < 0 ∧ !record.isCohesive then .separated
  else if overlap < 0 ∧ record.tensileLimit.isReachedBy (Scalar.abs overlap) then
    .overstretched overlap
  else if pair.distanceSquared < Scalar.tiny then .coincident
  else .engaged overlap

/-- Reciprocal of the squared distance of the centers. -/
def inverseSquare (pair : Kinematics α) : α := 1 / pair.distanceSquared

/-- Relative velocity times distance, along the line of centers. -/
def approach (pair : Kinematics α) : α := pair.velocity.dot pair.delta

/-- Relative velocity of the surfaces in the contact plane, spins included. -/
def slip (pair : Kinematics α) : Vec3 α :=
  let straight := pair.velocity - pair.delta * (pair.approach * pair.inverseSquare)
  let rolling := (pair.firstSpin * pair.firstRadius + pair.secondSpin * pair.secondRadius)
    * (1 / pair.distance)
  straight + pair.delta.cross rolling

/-- A displacement without its part along the line of centers. -/
def tangentPart (pair : Kinematics α) (shear : Vec3 α) : Vec3 α :=
  shear - pair.delta * (shear.dot pair.delta * pair.inverseSquare)

end Kinematics

namespace Material

/-- Normal force over distance: spring and damper. -/
def normalRate (material : Material α) (pair : Kinematics α) (overlap : α) : α :=
  material.normalStiffness * overlap * (1 / pair.distance)
    - pair.mass * material.normalDamping * pair.approach * pair.inverseSquare

/-- Limit of the tangential force of a pair under a given normal force. -/
def shearLimit (material : Material α) (pair : Kinematics α) (cohesive : Bool)
    (normal : α) : α :=
  let friction := material.friction * Scalar.abs normal
  if cohesive then friction + material.bondShearForce pair.radiusMin else friction

/-- Tangential force before it is limited. -/
def trialForce (material : Material α) (pair : Kinematics α) (shear : Vec3 α) : Vec3 α :=
  -(shear * material.tangentialStiffness + pair.slip * (pair.mass * material.slipDamping))

/-- The displacement that goes with a force cut down by a ratio.  The damper's
part of the force is taken into the displacement. -/
def cutShear (material : Material α) (pair : Kinematics α) (shear : Vec3 α) (ratio : α) :
    Vec3 α :=
  if 0 < material.tangentialStiffness then
    let damper := pair.slip *
      (pair.mass * material.slipDamping / material.tangentialStiffness)
    (shear + damper) * ratio - damper
  else
    shear * ratio

end Material

/-- Displacement and force in the contact plane after the limit is applied. -/
structure Tangential (α : Type) where
  shear : Vec3 α
  force : Vec3 α
  sliding : Bool

namespace Material

/-- Apply the limit of the tangential force to a displacement, given as it is
before and after its projection into the contact plane. -/
def tangential (material : Material α) (pair : Kinematics α) (displacement : Vec3 α)
    (limit : α) : Tangential α :=
  let shear := pair.tangentPart displacement
  let force := material.trialForce pair shear
  if limit ≤ force.norm then
    if 0 < displacement.norm ∧ 0 < force.norm then
      let ratio := limit / force.norm
      ⟨material.cutShear pair shear ratio, force * ratio, true⟩
    else
      ⟨shear, 0, true⟩
  else
    ⟨shear, force, false⟩

/-- The contact of an engaged pair, and its record afterwards. -/
def engage (material : Material α) (pair : Kinematics α) (record : ContactRecord α)
    (flipped : Bool) (timestep overlap : α) : ContactForce α × ContactRecord α :=
  let rate := material.normalRate pair overlap
  let normal := rate * pair.distance
  let limit := material.shearLimit pair record.isCohesive normal
  let displacement := record.shearFor flipped + pair.slip * timestep
  let plane := material.tangential pair displacement limit
  let sheared := plane.sliding && record.isCohesive
  let separated := sheared && decide (pair.radiusSum * pair.radiusSum < pair.distanceSquared)
  let tangential := if separated then 0 else plane.force
  let central := if separated then 0 else pair.delta * rate
  let twist : Vec3 α := pair.delta.cross tangential * (1 / pair.distance)
  let touched := (record.withShear flipped plane.shear).touched
  let record := if sheared then touched.sheared else touched
  ({ force := central + tangential
     firstTorque := -twist * pair.firstRadius
     secondTorque := -twist * pair.secondRadius
     tangential, normal, limit, overlap
     sliding := plane.sliding
     sheared, separated },
   if separated then record.apart else record)

/-- What a pair does in a step, and its record afterwards.  The pair counts as
flipped when it is visited with the higher tag first. -/
def evaluate (material : Material α) (pair : Kinematics α) (record : ContactRecord α)
    (flipped : Bool) (timestep : α) : Outcome α × ContactRecord α :=
  match pair.standing record with
  | .separated => (.separated, record.apart)
  | .overstretched overlap => (.torn overlap, record.apart.torn)
  | .coincident => (.coincident, record.touched)
  | .engaged overlap =>
      let (force, record) := material.engage pair record flipped timestep overlap
      (.contact force, record)

end Material

end GranularBonds
