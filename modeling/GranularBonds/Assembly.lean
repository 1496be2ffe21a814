import GranularBonds.Particle

/-!
# Assemblies of particles

The particles that one worker sees: first those it owns, then ghosts, which
are replicas of particles that other workers own.  Positions in this list are
good for one step only.
-/

namespace GranularBonds

/-- Particles of one worker, the owned ones first. -/
structure Assembly (α : Type) where
  particles : List (Particle α)
  /-- How many of the particles are owned. -/
  ownedCount : Nat
  /-- How many kinds of particles the run has, a word of 64 bits. -/
  kindWord : UInt64

namespace Assembly

variable {α : Type}

/-- How many kinds of particles the run has. -/
def kindCount (assembly : Assembly α) : Nat := assembly.kindWord.toNat

/-- Largest kind among particles, zero if there are none. -/
def largestKind (particles : List (Particle α)) : Nat :=
  particles.foldl (fun largest particle => max largest particle.kind) 0

/-- An assembly of owned particles and ghosts. -/
def ofGhosts (owned ghosts : List (Particle α)) : Assembly α where
  particles := owned ++ ghosts
  ownedCount := owned.length
  kindWord := (largestKind (owned ++ ghosts)).toUInt64

/-- An assembly in which every particle is owned. -/
def ofOwned (owned : List (Particle α)) : Assembly α := ofGhosts owned []

/-- Declare kinds beyond those that are present. -/
def withKinds (assembly : Assembly α) (kinds : UInt64) : Assembly α :=
  { assembly with kindWord := max assembly.kindWord kinds }

/-- Number of particles, ghosts included. -/
def size (assembly : Assembly α) : Nat := assembly.particles.length

/-- The owned particles. -/
def owned (assembly : Assembly α) : List (Particle α) :=
  assembly.particles.take assembly.ownedCount

/-- Whether a position is that of an owned particle. -/
def isOwned (assembly : Assembly α) (index : Nat) : Bool := index < assembly.ownedCount

/-- The particle at a position. -/
def get? (assembly : Assembly α) (index : Nat) : Option (Particle α) :=
  assembly.particles[index]?

/-- The particle at a position that the caller promises to be in range. -/
def particle (assembly : Assembly α) (index : Nat) : Except (Fault α) (Particle α) :=
  match assembly.get? index with
  | some particle => .ok particle
  | none => .error .outOfBounds

/-- First position of a tag. -/
def position? (assembly : Assembly α) (tag : Tag) : Option Nat :=
  assembly.particles.findIdx? fun particle => particle.tag == tag

/-- Change the particle at a position, if there is one. -/
def modify (assembly : Assembly α) (index : Nat) (change : Particle α → Particle α) :
    Assembly α :=
  { assembly with particles := assembly.particles.modify index change }

@[simp] theorem size_modify (assembly : Assembly α) (index : Nat)
    (change : Particle α → Particle α) :
    (assembly.modify index change).size = assembly.size := by
  simp [size, modify]

theorem get?_modify (assembly : Assembly α) (index other : Nat)
    (change : Particle α → Particle α) :
    (assembly.modify index change).get? other =
      if index = other then (assembly.get? other).map change else assembly.get? other := by
  simp only [get?, modify, List.getElem?_modify]
  split <;> simp

variable [Scalar α]

/-- Add a force and a torque to the particle at a position. -/
def load (assembly : Assembly α) (index : Nat) (force torque : Vec3 α) : Assembly α :=
  assembly.modify index fun particle => particle.loaded force torque

/-- All particles before any contact of the step. -/
def cleared (assembly : Assembly α) : Assembly α :=
  { assembly with particles := assembly.particles.map Particle.cleared }

/-- Refuse the first particle that is not usable. -/
def validate (assembly : Assembly α) : Except (Fault α) Unit :=
  assembly.particles.forM Particle.validate

end Assembly

end GranularBonds
