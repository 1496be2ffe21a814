import GranularBonds.Assembly
import GranularBonds.Exchange
import GranularBonds.Mass

/-!
# Cached body masses

Masses of rigid bodies by position, for owned particles and ghosts.  The
values are taken anew when the neighbor list is built anew; zero stands for a
particle outside every body.
-/

namespace GranularBonds

/-- Tells the mass of the rigid body of an owned particle. -/
abbrev BodyMasses (α : Type) := Nat → Option α

/-- Body masses by position. -/
structure BodyCache (α : Type) where
  masses : List α

namespace BodyCache

variable {σ α : Type} [Scalar α]

/-- A cache that was never filled. -/
def empty : BodyCache α := ⟨[]⟩

/-- The entry for an owned particle. -/
def entry (bodies : BodyMasses α) (index : Nat) : α :=
  match bodies index with
  | some mass => if 0 < mass then mass else 0
  | none => 0

/-- The cache with at least a number of entries. -/
def extended (cache : BodyCache α) (size : Nat) : List α :=
  cache.masses ++ List.replicate (size - cache.masses.length) 0

/-- Take the masses of the owned particles anew and hand them on to ghosts.
Entries past the particles of the assembly stay as they are. -/
def refresh (exchange : Exchange σ α) (assembly : Assembly α) (bodies : BodyMasses α)
    (cache : BodyCache α) (state : σ) : BodyCache α × σ :=
  let filled := (cache.extended assembly.size).mapIdx fun index mass =>
    if index < assembly.ownedCount then entry bodies index else mass
  let (present, state) :=
    exchange.forward (filled.take assembly.size) assembly.ownedCount state
  (⟨present ++ filled.drop assembly.size⟩, state)

/-- Body mass of the particle at a position, if it belongs to a body. -/
def get? (cache : BodyCache α) (index : Nat) : Option α :=
  cache.masses[index]?.filter fun mass => decide (0 < mass)

end BodyCache

/-- What the particle at a position brings to the reduced mass. -/
def Particle.contactMass {α : Type} [Scalar α] (particle : Particle α)
    (cache : Option (BodyCache α)) (index : Nat) : ContactMass α where
  mass := particle.mass
  bodyMass := cache.bind fun cache => cache.get? index
  frozen := particle.frozen

end GranularBonds
