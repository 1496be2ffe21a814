import GranularBonds.Fault
import GranularBonds.Vec3

/-!
# Particles

Spheres with position and motion, and the force and torque that contacts add
up on them during a step.
-/

namespace GranularBonds

/-- One spherical particle. -/
structure Particle (α : Type) where
  tag : Tag
  /-- Number of its kind, below the limit of a word; kinds are counted from one. -/
  kind : Nat
  position : Vec3 α
  velocity : Vec3 α
  spin : Vec3 α
  radius : α
  mass : α
  /-- A fixed anchor, which takes part in contacts as if its mass had no
  bound. -/
  frozen : Bool
  /-- Sum of the forces of this step. -/
  force : Vec3 α
  /-- Sum of the torques of this step. -/
  torque : Vec3 α

namespace Particle

variable {α : Type} [Scalar α]

/-- A free particle of the first kind, at rest and without load. -/
def atRest (tag : Tag) (position : Vec3 α) (radius mass : α) : Particle α where
  tag := tag
  kind := 1
  position := position
  velocity := 0
  spin := 0
  radius := radius
  mass := mass
  frozen := false
  force := 0
  torque := 0

/-- The particle before any contact of the step. -/
def cleared (particle : Particle α) : Particle α :=
  { particle with force := 0, torque := 0 }

/-- The particle with one more contact acting on it. -/
def loaded (particle : Particle α) (force torque : Vec3 α) : Particle α :=
  { particle with force := particle.force + force, torque := particle.torque + torque }

/-- Refuse a particle without a usable radius, mass or kind. -/
def validate (particle : Particle α) : Except (Fault α) Unit :=
  if !Scalar.isUsable particle.radius then
    .error (.setup (.particleRadius particle.tag particle.radius))
  else if !Scalar.isUsable particle.mass then
    .error (.setup (.particleMass particle.tag particle.mass))
  else if particle.kind == 0 then
    .error (.setup (.particleKind particle.tag))
  else
    .ok ()

end Particle

end GranularBonds
