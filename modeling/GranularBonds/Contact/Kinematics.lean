import GranularBonds.Assembly
import GranularBonds.Mass.BodyCache

/-!
# Kinematics of a pair

Where the two particles of a pair are and how they move, at one moment and
seen from the first of them.
-/

namespace GranularBonds

/-- Motion of a pair. -/
@[ext] structure Kinematics (α : Type) where
  /-- From the center of the second particle to that of the first. -/
  delta : Vec3 α
  /-- Velocity of the first particle relative to the second. -/
  velocity : Vec3 α
  firstSpin : Vec3 α
  secondSpin : Vec3 α
  firstRadius : α
  secondRadius : α
  /-- Reduced mass of the pair. -/
  mass : α

namespace Kinematics

variable {α : Type} [Scalar α]

/-- A pair at rest. -/
def atRest (delta : Vec3 α) (firstRadius secondRadius mass : α) : Kinematics α where
  delta := delta
  velocity := 0
  firstSpin := 0
  secondSpin := 0
  firstRadius := firstRadius
  secondRadius := secondRadius
  mass := mass

/-- The same pair seen from the second particle. -/
def reversed (pair : Kinematics α) : Kinematics α where
  delta := -pair.delta
  velocity := -pair.velocity
  firstSpin := pair.secondSpin
  secondSpin := pair.firstSpin
  firstRadius := pair.secondRadius
  secondRadius := pair.firstRadius
  mass := pair.mass

/-- Squared distance of the centers. -/
def distanceSquared (pair : Kinematics α) : α := pair.delta.normSquared

/-- Distance of the centers. -/
def distance (pair : Kinematics α) : α := pair.delta.norm

/-- Distance at which the surfaces touch. -/
def radiusSum (pair : Kinematics α) : α := pair.firstRadius + pair.secondRadius

/-- Radius of the smaller particle. -/
def radiusMin (pair : Kinematics α) : α :=
  Scalar.minimum pair.firstRadius pair.secondRadius

/-- The motion of two particles at given positions of an assembly. -/
def ofParticles (cache : Option (BodyCache α)) (first second : Nat)
    (firstParticle secondParticle : Particle α) : Kinematics α where
  delta := firstParticle.position - secondParticle.position
  velocity := firstParticle.velocity - secondParticle.velocity
  firstSpin := firstParticle.spin
  secondSpin := secondParticle.spin
  firstRadius := firstParticle.radius
  secondRadius := secondParticle.radius
  mass := (firstParticle.contactMass cache first).reduced
    (secondParticle.contactMass cache second)

end Kinematics

/-- The motion of the pair at two positions. -/
def Assembly.kinematics {α : Type} [Scalar α] (assembly : Assembly α)
    (cache : Option (BodyCache α)) (first second : Nat) :
    Except (Fault α) (Kinematics α) := do
  let firstParticle ← assembly.particle first
  let secondParticle ← assembly.particle second
  return .ofParticles cache first second firstParticle secondParticle

end GranularBonds
